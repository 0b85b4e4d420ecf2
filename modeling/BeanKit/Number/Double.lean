/-!
# Double-precision numbers by their bits

A number is kept as the 64 bits of its binary interchange form and read as sign and magnitude. A
finite magnitude is `mantissa * 2 ^ exponent` with both numbers exact, so what is said of a number
is said of integers.
-/

namespace BeanKit

/-- A double-precision number, by its bits: sign, eleven exponent bits, fifty-two fraction bits. -/
structure Double where
  bits : UInt64
  deriving Repr, DecidableEq

/-- What a number's magnitude is. -/
inductive Magnitude where
  | finite (mantissa : Nat) (exponent : Int)
  | infinite
  | notANumber
  deriving Repr, DecidableEq

namespace Double

/-- Whether the sign bit is set. -/
def isNegative (x : Double) : Bool := Nat.pow 2 63 ≤ x.bits.toNat

/-- The number's magnitude. With all exponent bits clear, the mantissa lacks its leading bit. -/
def magnitude (x : Double) : Magnitude :=
  let fraction : Nat := x.bits.toNat % Nat.pow 2 52
  let scale : Nat := x.bits.toNat / Nat.pow 2 52 % 2048
  if scale = 2047 then if fraction = 0 then .infinite else .notANumber
  else if scale = 0 then .finite fraction (-1074)
  else .finite (Nat.pow 2 52 + fraction) ((scale : Int) - 1075)

/-- Whether the number is zero, of either sign. -/
def isZero (x : Double) : Bool :=
  match x.magnitude with
  | .finite 0 _ => true
  | _ => false

/-- The number with the given sign and the magnitude of these sixty-three bits. -/
def ofParts (negative : Bool) (magnitudeBits : Nat) : Double :=
  ⟨UInt64.ofNat ((if negative then Nat.pow 2 63 else 0) + magnitudeBits)⟩

/-- The bits of an infinite magnitude. -/
def infiniteBits : Nat := 2047 * Nat.pow 2 52

/-- Infinity with the given sign. -/
def infinity (negative : Bool) : Double := ofParts negative infiniteBits

/-- The number that stands for no number. -/
def nan : Double := ofParts false (infiniteBits + Nat.pow 2 51)

/-- A quotient rounded to the nearest integer, a half to the even neighbour. -/
def roundQuotient (num den : Nat) : Nat :=
  let q := num / den
  let twice := 2 * (num % den)
  if twice < den ∨ (twice = den ∧ q % 2 = 0) then q else q + 1

/-- The magnitude bits nearest to `num / den`, for positive numbers: the binary exponent is chosen
so that the rounded quotient has fifty-three bits, or as many as the least exponent leaves. A
rounding that carries into the next power of two moves on to the next exponent by itself. -/
def nearestBits (num den : Nat) : Nat :=
  let estimate : Int := (Nat.log2 num : Int) - (Nat.log2 den : Int) - 52
  let quotient (e : Int) : Nat × Nat :=
    if 0 ≤ e then (num, den * Nat.pow 2 e.toNat) else (num * Nat.pow 2 (-e).toNat, den)
  let fits (e : Int) : Bool := let (n, d) := quotient e; Nat.pow 2 52 * d ≤ n
  let exponent := max (if fits estimate then estimate else estimate - 1) (-1074)
  let (n, d) := quotient exponent
  let mantissa := roundQuotient n d
  let bits := (exponent + 1074).toNat * Nat.pow 2 52 + mantissa
  if infiniteBits ≤ bits then infiniteBits else bits

/-- The number nearest to `digits * 10 ^ exponent`. Far outside the range of the type the power is
not computed. -/
def ofDecimal (negative : Bool) (digits : Nat) (exponent : Int) : Double :=
  let size : Int := (toString digits).length + exponent
  if digits = 0 ∨ size < -330 then ofParts negative 0
  else if 320 < size then infinity negative
  else if 0 ≤ exponent then ofParts negative (nearestBits (digits * Nat.pow 10 exponent.toNat) 1)
  else ofParts negative (nearestBits digits (Nat.pow 10 (-exponent).toNat))

/-- A single-precision number, given by its thirty-two bits, as the same double-precision number. -/
def ofSingleBits (bits : UInt32) : Double :=
  let negative : Bool := decide (Nat.pow 2 31 ≤ bits.toNat)
  let fraction := bits.toNat % Nat.pow 2 23
  let scale := bits.toNat / Nat.pow 2 23 % 256
  if scale = 255 then if fraction = 0 then infinity negative else nan
  else if scale = 0 then
    if fraction = 0 then ofParts negative 0
    else
      let shift := 23 - Nat.log2 fraction
      let mantissa := fraction * Nat.pow 2 shift % Nat.pow 2 23
      ofParts negative ((897 - shift) * Nat.pow 2 52 + mantissa * Nat.pow 2 29)
  else ofParts negative ((scale + 896) * Nat.pow 2 52 + fraction * Nat.pow 2 29)

end Double
end BeanKit

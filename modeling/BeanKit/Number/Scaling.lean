import BeanKit.Number.Double
/-!
# Scaling by powers of ten

An integer times a power of ten in steps that each round: the integer becomes a number, which is
multiplied or divided by the number of the power. The result can be one place off the nearest
number, where `Double.ofDecimal` never is. A format that reads its numbers in this way says so.
-/

namespace BeanKit.Double

/-- The magnitude of a finite number as a quotient of integers. -/
def quotient (x : Double) : Nat × Nat :=
  match x.magnitude with
  | .finite mantissa exponent =>
    if 0 ≤ exponent then (mantissa * Nat.pow 2 exponent.toNat, 1)
    else (mantissa, Nat.pow 2 (-exponent).toNat)
  | _ => (0, 1)

/-- The positive number nearest to a quotient of integers. -/
def ofQuotient (num den : Nat) : Double :=
  if num = 0 then ofParts false 0 else ofParts false (nearestBits num den)

/-- The product of two positive numbers. -/
def mul (x y : Double) : Double :=
  ofQuotient (x.quotient.1 * y.quotient.1) (x.quotient.2 * y.quotient.2)

/-- The quotient of two positive numbers. -/
def div (x y : Double) : Double :=
  ofQuotient (x.quotient.1 * y.quotient.2) (x.quotient.2 * y.quotient.1)

/-- The number nearest to a power of ten. -/
def powerOfTen (k : Nat) : Double := ofDecimal false 1 k

/-- The greatest power of ten that is a number. -/
def greatestPower : Nat := 308

/-- A positive number divided by a power of ten. A power that is no number is taken off in parts. -/
def scaleDown (x : Double) (k : Nat) : Double :=
  if x.isZero then x
  else if k ≤ greatestPower then x.div (powerOfTen k)
  else scaleDown (x.div (powerOfTen greatestPower)) (k - greatestPower)
termination_by k
decreasing_by simp [greatestPower] at *; omega

/-- Whether the number is infinity, of either sign. -/
def isInfinite (x : Double) : Bool :=
  match x.magnitude with
  | .infinite => true
  | _ => false

/-- An integer times a power of ten, where that is within the range of the type. -/
def scaled? (n : Nat) (exponent : Int) : Option Double :=
  let x := ofQuotient n 1
  if exponent < 0 then some (x.scaleDown (-exponent).toNat)
  else if x.isZero then some x
  else if (greatestPower : Int) < exponent then none
  else
    let y := x.mul (powerOfTen exponent.toNat)
    if y.isInfinite then none else some y

/-- A number with a sign in front of it. -/
def signed (negative : Bool) (x : Double) : Double :=
  if negative then ofParts true (x.bits.toNat % Nat.pow 2 63) else x

end BeanKit.Double

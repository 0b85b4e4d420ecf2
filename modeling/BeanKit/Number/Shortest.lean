import BeanKit.Number.Double
/-!
# The fewest digits that read back

Every decimal in the interval of reals that round to a number reads back as that number. Among the
decimal grids (multiples of a power of ten) `shortest` takes the coarsest one with a point in the
interval, and of the two points beside the number the nearer; a tie goes to the larger. All of it is
exact integer arithmetic.
-/

namespace BeanKit.Number

/-- A positive decimal: `digits * 10 ^ exponent`. -/
structure Decimal where
  digits : Nat
  exponent : Int
  deriving Repr, DecidableEq

/-- The reals that round to a number, as quarter steps of its mantissa: the number is
`middle / scale`, the ends are `low / scale` and `high / scale`, and they belong to the interval
where `closed` says so. -/
structure RoundingInterval where
  low : Nat
  middle : Nat
  high : Nat
  scale : Nat
  closed : Bool
  deriving Repr, DecidableEq

/-- The interval of a magnitude. Below a power of two the neighbour is only half as far away, and
the ends belong to the interval when the mantissa is even. -/
def RoundingInterval.ofMagnitude (mantissa : Nat) (exponent : Int) : RoundingInterval :=
  let below := if mantissa = Nat.pow 2 52 then 1 else 2
  let e := exponent - 2
  let factor := if 0 ≤ e then Nat.pow 2 e.toNat else 1
  { low := (4 * mantissa - below) * factor
    middle := 4 * mantissa * factor
    high := (4 * mantissa + 2) * factor
    scale := if 0 ≤ e then 1 else Nat.pow 2 (-e).toNat
    closed := mantissa % 2 = 0 }

/-- Whether the point `n / d` lies in the interval, once both are brought to one denominator. -/
def RoundingInterval.holds (r : RoundingInterval) (n d : Nat) : Bool :=
  if r.closed then r.low * d ≤ n * r.scale && n * r.scale ≤ r.high * d
  else r.low * d < n * r.scale && n * r.scale < r.high * d

/-- The point of the grid of multiples of `10 ^ p` that lies in the interval, the nearer one where
both neighbours of the middle do. -/
def RoundingInterval.gridPoint? (r : RoundingInterval) (p : Int) : Option Nat :=
  let up := if 0 ≤ p then Nat.pow 10 p.toNat else 1
  let down := if 0 ≤ p then 1 else Nat.pow 10 (-p).toNat
  let num := r.middle * down
  let den := r.scale * up
  let floor := num / den
  let lower := r.holds (floor * up) down
  let upper := r.holds ((floor + 1) * up) down
  if lower && (!upper || 2 * (num % den) < den) then some floor
  else if upper then some (floor + 1)
  else none

/-- Tries the grids from `10 ^ p` on towards finer ones, `fuel` of them. -/
def RoundingInterval.coarsest (r : RoundingInterval) : Nat → Int → Option Decimal
  | 0, _ => none
  | fuel + 1, p =>
    match r.gridPoint? p with
    | some n => some ⟨n, p⟩
    | none => r.coarsest fuel (p - 1)

/-- The decimal with the fewest digits that reads back as a magnitude, where the magnitude is not
zero. The coarsest grid tried lies above every finite number, the finest below the smallest. -/
def shortest? (mantissa : Nat) (exponent : Int) : Option Decimal :=
  (RoundingInterval.ofMagnitude mantissa exponent).coarsest 660 309

/-- Zeros. -/
def zeros (n : Nat) : List Char := List.replicate n '0'

/-- A decimal written out in full, never with an exponent. -/
def Decimal.text (d : Decimal) : String :=
  let ds := Nat.toDigits 10 d.digits
  if 0 ≤ d.exponent then String.ofList (ds ++ zeros d.exponent.toNat)
  else
    let places := (-d.exponent).toNat
    if places < ds.length then
      String.ofList (ds.take (ds.length - places) ++ '.' :: ds.drop (ds.length - places))
    else String.ofList ('0' :: '.' :: zeros (places - ds.length) ++ ds)

/-- A number's text: sign, then the fewest digits that read back, written out in full. -/
def plainText (x : Double) : String :=
  let sign := if x.isNegative then "-" else ""
  match x.magnitude with
  | .notANumber => "NaN"
  | .infinite => sign ++ "inf"
  | .finite 0 _ => sign ++ "0"
  | .finite mantissa exponent =>
    sign ++ match shortest? mantissa exponent with
      | some d => d.text
      | none => "0"

/-- The integer that a magnitude is, where it is one. -/
def integral? (mantissa : Nat) (exponent : Int) : Option Nat :=
  if 0 ≤ exponent then some (mantissa * Nat.pow 2 exponent.toNat)
  else
    let unit := Nat.pow 2 (-exponent).toNat
    if mantissa % unit = 0 then some (mantissa / unit) else none

/-- A number's text in which an integer has all its digits and one decimal place. -/
def onePlaceText (x : Double) : String :=
  match x.magnitude with
  | .finite mantissa exponent =>
    match integral? mantissa exponent with
    | some n => (if x.isNegative then "-" else "") ++ toString n ++ ".0"
    | none => plainText x
  | _ => plainText x

end BeanKit.Number

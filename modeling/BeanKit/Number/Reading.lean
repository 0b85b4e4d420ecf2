import BeanKit.Number.Double
import BeanKit.Text.Pieces
/-!
# Reading numbers

The numbers that a whole text writes: an integer has a sign and digits and fits sixty-four bits; a
floating-point number has a sign, digits with or without a point among or beside them, and an
exponent, or is one of the words for infinity and for no number.
-/

namespace BeanKit.Number

open BeanKit.Text

/-- A sign, where there is one, and what follows it: whether it is a minus sign comes first. -/
def takeSign : List Char → Bool × List Char
  | '-' :: rest => (true, rest)
  | '+' :: rest => (false, rest)
  | cs => (false, cs)

/-- An integer with the given sign, where it fits sixty-four bits. -/
def signed? (negative : Bool) (n : Nat) : Option Int :=
  if negative then if n ≤ Nat.pow 2 63 then some (-(n : Int)) else none
  else if n < Nat.pow 2 63 then some n else none

/-- The integer of sixty-four bits that a text writes in decimal digits. -/
def int64? (cs : List Char) : Option Int :=
  let (negative, digits) := takeSign cs
  (nat? digits).bind (signed? negative)

/-- The integer that a text of digits, with or without a sign, writes. -/
def int? (cs : List Char) : Option Int :=
  let (negative, digits) := takeSign cs
  (nat? digits).map fun n => if negative then -(n : Int) else n

/-- The exponent at the end of a number: none at all is zero. -/
def exponent? : List Char → Option Int
  | [] => some 0
  | 'e' :: rest => int? rest
  | 'E' :: rest => int? rest
  | _ => none

/-- The words for infinity and for no number. -/
def wordValue? (negative : Bool) (cs : List Char) : Option Double :=
  let word := String.ofList (cs.map lowerAscii)
  if word = "inf" ∨ word = "infinity" then some (.infinity negative)
  else if word = "nan" then some .nan
  else none

/-- The number that digits, a fraction and an exponent write: there is a digit before or after the
point. -/
def decimalValue? (negative : Bool) (cs : List Char) : Option Double :=
  let whole := cs.takeWhile isDigit
  let rest := cs.dropWhile isDigit
  let (fraction, rest) := match rest with
    | '.' :: rest => (rest.takeWhile isDigit, rest.dropWhile isDigit)
    | _ => ([], rest)
  let digits := whole ++ fraction
  if digits.isEmpty then none
  else
    (exponent? rest).map fun e =>
      Double.ofDecimal negative (digitsValue digits) (e - fraction.length)

/-- The floating-point number that a text writes. -/
def double? (cs : List Char) : Option Double :=
  let (negative, rest) := takeSign cs
  (wordValue? negative rest).orElse fun _ => decimalValue? negative rest

end BeanKit.Number

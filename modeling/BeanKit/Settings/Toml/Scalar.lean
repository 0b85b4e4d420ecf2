import BeanKit.Calendar
import BeanKit.Settings.Toml.Text
/-!
# Numbers and dates of TOML

A number or a date is a token of its own form. Dates are those of the calendar; a date becomes the
text that writes it in one way: a capital `T` and `Z`, a fraction of a second of nine digits at most
and without zeros at its end, and a plus sign in front of an offset of nothing.
-/

namespace BeanKit.Settings.Toml

open BeanKit.Text

/-- Digits without the underscores between them: an underscore has a digit on either side. -/
def withoutUnderscores : List Char → Option (List Char)
  | [] => some []
  | '_' :: _ => none
  | [c] => some [c]
  | c :: '_' :: d :: rest => if d = '_' then none else (withoutUnderscores (d :: rest)).map (c :: ·)
  | c :: rest => (withoutUnderscores rest).map (c :: ·)

/-- Whether decimal digits have no zero in front of others. -/
def isWhole : List Char → Bool
  | ['0'] => true
  | '0' :: _ => false
  | cs => !cs.isEmpty

/-- The integer that a token writes in another base than ten. -/
def basedInteger? (base : Nat) (digits : List Char) : Option Tree :=
  ((withoutUnderscores digits).bind (digits? base)).bind fun n =>
    (Number.signed? false n).map .int

/-- A number with a fraction or an exponent. One that is too large to be told from infinity is
refused where it is positive. -/
def float? (negative : Bool) (cs : List Char) : Option Tree :=
  (Number.decimalValue? negative cs).bind fun x =>
    if x = .infinity false then none else some (.float x)

/-- The number that a token writes, its underscores taken out. -/
def plainNumber? (token : List Char) : Option Tree :=
  let (negative, rest) := Number.takeSign token
  let whole := rest.takeWhile isDigit
  let tail := rest.dropWhile isDigit
  if rest = "inf".toList then some (.float (.infinity negative))
  else if rest = "nan".toList then some (.float .nan)
  else if !isWhole whole then none
  else
    match tail with
    | [] => (Number.signed? negative (digitsValue whole)).map .int
    | '.' :: c :: _ =>
      if isDigit c then float? negative rest else none
    | 'e' :: _ => float? negative rest
    | 'E' :: _ => float? negative rest
    | _ => none

/-- Whether an underscore stands beside something else than digits. -/
def hasLooseUnderscore : List Char → Bool
  | [] => false
  | [c] => c = '_'
  | c :: d :: rest =>
    (c = '_' && !isDigit d) || (d = '_' && !isDigit c) || hasLooseUnderscore (d :: rest)

/-- The number that a token writes. -/
def number? (token : List Char) : Option Tree :=
  match token with
  | '0' :: 'x' :: rest => basedInteger? 16 rest
  | '0' :: 'o' :: rest => basedInteger? 8 rest
  | '0' :: 'b' :: rest => basedInteger? 2 rest
  | '_' :: _ => none
  | _ => if hasLooseUnderscore token then none else plainNumber? (token.filter (· ≠ '_'))

/-- Whether a text has the form of a pattern, in which a zero stands for any digit. -/
def hasForm : List Char → List Char → Bool
  | [], [] => true
  | p :: pattern, c :: cs =>
    (if p = '0' then isDigit c else c = p) && hasForm pattern cs
  | _, _ => false

/-- Whether a text is a day of the calendar. -/
def isDay (cs : List Char) : Bool :=
  hasForm "0000-00-00".toList cs &&
    ({ year := digitsValue (cs.take 4)
       month := digitsValue ((cs.drop 5).take 2)
       day := digitsValue (cs.drop 8) } : Date).isInCalendar

/-- Whether a text is an hour and a minute. -/
def isClock (cs : List Char) : Bool :=
  hasForm "00:00".toList cs && digitsValue (cs.take 2) < 24 && digitsValue (cs.drop 3) < 60

/-- The fraction of a second that a text writes, as it is written in a date. -/
def fraction? : List Char → Option (List Char)
  | [] => some []
  | '.' :: rest =>
    let kept := ((rest.take 9).reverse.dropWhile (· = '0')).reverse
    if rest.isEmpty || !rest.all isDigit then none
    else some (if kept.isEmpty then [] else '.' :: kept)
  | _ => none

/-- The time of day that a text writes. -/
def time? (cs : List Char) : Option (List Char) :=
  if isClock (cs.take 5) && hasForm ":00".toList ((cs.drop 5).take 3) &&
      digitsValue ((cs.drop 6).take 2) ≤ 60 then
    (fraction? (cs.drop 8)).map (cs.take 8 ++ ·)
  else none

/-- The offset from universal time that a text writes. -/
def offset? (cs : List Char) : Option (List Char) :=
  match cs with
  | [] => some []
  | ['Z'] => some ['Z']
  | '+' :: clock => if isClock clock then some cs else none
  | '-' :: clock =>
    if isClock clock then some ((if clock = "00:00".toList then '+' else '-') :: clock) else none
  | _ => none

/-- The time of day with or without an offset that a text writes. -/
def timeWithOffset? (cs : List Char) : Option (List Char) :=
  let time := cs.takeWhile fun c => isDigit c || c = ':' || c = '.'
  match time? time, offset? (cs.drop time.length) with
  | some time, some offset => some (time ++ offset)
  | _, _ => none

/-- The date that a token writes: a day, a time of day, or both with an offset. -/
def date? (token : List Char) : Option Tree :=
  let token := token.map fun c => if c = 't' ∨ c = ' ' then 'T' else if c = 'z' then 'Z' else c
  let written := if isDay (token.take 10) then
      match token.drop 10 with
      | [] => some token
      | 'T' :: rest => (timeWithOffset? rest).map (token.take 10 ++ 'T' :: ·)
      | _ => none
    else time? token
  written.map fun cs => .text (String.ofList cs)

/-- Whether a character may stand in a number or a date. -/
def isScalarChar (c : Char) : Bool := isKeyChar c || c = '+' || c = '.' || c = ':'

/-- A number or a date. A day and a time of day may have one blank between them. -/
def scalar (cs : List Char) : Taken Tree :=
  let token := cs.takeWhile isScalarChar
  let rest := cs.dropWhile isScalarChar
  let spaced := match rest with
    | ' ' :: d :: _ => isDay token && isDigit d
    | _ => false
  let (token, rest) :=
    if spaced then
      (token ++ ' ' :: (rest.drop 1).takeWhile isScalarChar, (rest.drop 1).dropWhile isScalarChar)
    else (token, rest)
  if token = "true".toList then some (.bool true, rest)
  else if token = "false".toList then some (.bool false, rest)
  else ((number? token).orElse fun _ => date? token).map fun t => (t, rest)

end BeanKit.Settings.Toml

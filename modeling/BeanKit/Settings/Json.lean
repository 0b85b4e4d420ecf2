import BeanKit.Number.Scaling
import BeanKit.Settings.Reading
/-!
# JSON files

Reads a JSON document. Its root is a table. Of two fields with one key the later one counts. A
floating-point number is scaled by steps that round, so it can be one place off the nearest one.
-/

namespace BeanKit.Settings.Json

open BeanKit.Text

/-- Whether a character may stand between two tokens. -/
def isSpace (c : Char) : Bool := c = ' ' || c = '\t' || c = '\n' || c = '\r'

/-- A text from its first token on. -/
def skipSpace (cs : List Char) : List Char := cs.dropWhile isSpace

/-- The character behind a backslash. -/
def escaped? : Char → Option Char
  | '"' => some '"'
  | '\\' => some '\\'
  | '/' => some '/'
  | 'b' => some '\x08'
  | 'f' => some '\x0c'
  | 'n' => some '\n'
  | 'r' => some '\r'
  | 't' => some '\t'
  | _ => none

/-- The code point of a pair of surrogates. -/
def joined (high low : Nat) : Nat := 0x10000 + (high - 0xD800) * 1024 + (low - 0xDC00)

/-- The characters up to the closing quote. `high` is the first surrogate of a pair of which the
second is still to come. -/
def textBody (high : Option Nat) : List Char → Taken (List Char)
  | [] => none
  | '"' :: rest => if high.isNone then some ([], rest) else none
  | '\\' :: 'u' :: a :: b :: c :: d :: rest =>
    match digits? 16 [a, b, c, d], high with
    | none, _ => none
    | some n, some h =>
      if 0xDC00 ≤ n ∧ n ≤ 0xDFFF then consTaken (Char.ofNat (joined h n)) (textBody none rest)
      else none
    | some n, none =>
      if 0xD800 ≤ n ∧ n ≤ 0xDBFF then textBody (some n) rest
      else
        match codePoint? n with
        | some ch => consTaken ch (textBody none rest)
        | none => none
  | '\\' :: e :: rest =>
    match escaped? e, high with
    | some ch, none => consTaken ch (textBody none rest)
    | _, _ => none
  | c :: rest => if high.isSome ∨ c.toNat < 32 then none else consTaken c (textBody none rest)

/-- Whether a character may stand in a number. -/
def isNumberChar (c : Char) : Bool :=
  isDigit c || c = '-' || c = '+' || c = '.' || c = 'e' || c = 'E'

/-- Whether the digits before the point have the form of the format: no zero in front of others. -/
def isWhole : List Char → Bool
  | ['0'] => true
  | '0' :: _ => false
  | cs => !cs.isEmpty

/-- A number's token in its parts: whether there is a minus sign, the digits before the point, those
behind it, and the exponent, of which the sign comes first. -/
structure NumberParts where
  negative : Bool
  whole : List Char
  fraction : Option (List Char)
  exponent : Option (Bool × List Char)

/-- The fraction at the front of a text, and the rest. -/
def takeFraction : List Char → Option (List Char) × List Char
  | '.' :: rest => (some (rest.takeWhile isDigit), rest.dropWhile isDigit)
  | cs => (none, cs)

/-- The exponent that a text is; the inner result is missing where the text is empty. -/
def exponent? : List Char → Option (Option (Bool × List Char))
  | [] => some none
  | c :: rest =>
    let (negative, digits) := Number.takeSign rest
    if (c = 'e' ∨ c = 'E') ∧ !digits.isEmpty ∧ digits.all isDigit then
      some (some (negative, digits))
    else none

/-- The parts of a token, where it has the form of a number. -/
def NumberParts.of? (token : List Char) : Option NumberParts :=
  let (negative, digits) := match token with
    | '-' :: rest => (true, rest)
    | _ => (false, token)
  let whole := digits.takeWhile isDigit
  let (fraction, rest) := takeFraction (digits.dropWhile isDigit)
  if !isWhole whole || fraction.any List.isEmpty then none
  else (exponent? rest).map fun exponent => { negative, whole, fraction, exponent }

/-- The value of digits behind those that make `n`, as far as it stays within sixty-four bits, and
the digits that are left. -/
def significand (n : Nat) : List Char → Nat × List Char
  | [] => (n, [])
  | c :: rest =>
    let m := 10 * n + digitsValue [c]
    if m < Nat.pow 2 64 then significand m rest else (n, c :: rest)

/-- The greatest exponent that is not out of range by itself. -/
def greatestExponent : Nat := Nat.pow 2 31 - 1

namespace NumberParts

/-- The integer that the digits before the point make, where there is nothing else and they fit
sixty-four bits. -/
def integer? (p : NumberParts) : Option Nat :=
  match p.fraction, p.exponent, significand 0 p.whole with
  | none, none, (n, []) => some n
  | _, _, _ => none

/-- The floating-point number that the parts write. Digits beyond sixty-four bits are dropped, and
what is left is scaled by steps that round. -/
def float? (p : NumberParts) : Option Double :=
  let (n, more) := significand 0 p.whole
  let fraction := p.fraction.getD []
  let (n, dropped) := significand n fraction
  let exponent : Int := (more.length : Int) + dropped.length - fraction.length
  let magnitude := match p.exponent with
    | none => Double.scaled? n exponent
    | some (negative, digits) =>
      let e := digitsValue digits
      if greatestExponent < e then if negative || n = 0 then Double.scaled? 0 0 else none
      else Double.scaled? n (if negative then exponent - e else exponent + e)
  magnitude.map (Double.signed p.negative)

end NumberParts

/-- The number that a token writes. An integer out of range becomes a floating-point number, and so
does zero behind a minus sign. -/
def number? (token : List Char) : Option Tree :=
  (NumberParts.of? token).bind fun p =>
    match p.integer? with
    | some n =>
      if p.negative ∧ n = 0 then some (.float (.ofParts true 0)) else some (intOrFloat p.negative n)
    | none => p.float?.map .float

/-- How deep lists and tables may lie in one another. -/
def greatestDepth : Nat := 127

/-- Puts a field in front of the fields of a table. -/
def consField (key : List Char) (t : Tree) :
    Taken (List (String × Tree)) → Taken (List (String × Tree))
  | some (fields, rest) => some ((String.ofList key, t) :: fields, rest)
  | none => none

/-- Puts an item in front of the items of a list. -/
def consItem (t : Tree) : Taken (List Tree) → Taken (List Tree)
  | some (items, rest) => some (t :: items, rest)
  | none => none

mutual

/-- A value, in which lists and tables lie at most `depth` deep. Every call takes at least one
character, so the length of the text is fuel enough. -/
def value : Nat → Nat → List Char → Taken Tree
  | 0, _, _ => none
  | fuel + 1, depth, cs =>
    match skipSpace cs with
    | '"' :: rest => (textBody none rest).map fun (s, rest) => (.text (String.ofList s), rest)
    | '{' :: rest =>
      match depth, skipSpace rest with
      | 0, _ => none
      | _, '}' :: rest => some (.empty, rest)
      | depth + 1, rest =>
        (fields fuel depth rest).map fun (fs, rest) => (.table (OrderedMap.ofList fs).entries, rest)
    | '[' :: rest =>
      match depth, skipSpace rest with
      | 0, _ => none
      | _, ']' :: rest => some (.list [], rest)
      | depth + 1, rest => (items fuel depth rest).map fun (is, rest) => (.list is, rest)
    | cs =>
      match after? "true".toList cs, after? "false".toList cs, after? "null".toList cs with
      | some rest, _, _ => some (.bool true, rest)
      | _, some rest, _ => some (.bool false, rest)
      | _, _, some rest => some (.null, rest)
      | none, none, none =>
        (number? (cs.takeWhile isNumberChar)).map fun t => (t, cs.dropWhile isNumberChar)

/-- The fields of a table up to the closing brace; there is at least one. -/
def fields : Nat → Nat → List Char → Taken (List (String × Tree))
  | 0, _, _ => none
  | fuel + 1, depth, cs =>
    match skipSpace cs with
    | '"' :: rest =>
      match textBody none rest with
      | none => none
      | some (key, rest) =>
        match skipSpace rest with
        | ':' :: rest =>
          match value fuel depth rest with
          | none => none
          | some (t, rest) =>
            match skipSpace rest with
            | ',' :: rest => consField key t (fields fuel depth rest)
            | '}' :: rest => some ([(String.ofList key, t)], rest)
            | _ => none
        | _ => none
    | _ => none

/-- The items of a list up to the closing bracket; there is at least one. -/
def items : Nat → Nat → List Char → Taken (List Tree)
  | 0, _, _ => none
  | fuel + 1, depth, cs =>
    match value fuel depth cs with
    | none => none
    | some (t, rest) =>
      match skipSpace rest with
      | ',' :: rest => consItem t (items fuel depth rest)
      | ']' :: rest => some ([t], rest)
      | _ => none

end

/-- The fields of the table that a document is. -/
def read (cs : List Char) : Option (List (String × Tree)) :=
  match value (cs.length + 1) greatestDepth cs with
  | some (.table fields, rest) => if (skipSpace rest).isEmpty then some fields else none
  | _ => none

end BeanKit.Settings.Json

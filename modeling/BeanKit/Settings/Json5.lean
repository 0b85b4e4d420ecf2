import BeanKit.Settings.Reading
import BeanKit.Text.Blank
import BeanKit.Text.Letters
/-!
# JSON5 files

Reads a JSON5 document: JSON with comments, commas behind the last item, keys without quotes, texts
in either quotes, and more forms of numbers. Its root is a table. Of two fields with one key the
later one counts.
-/

namespace BeanKit.Settings.Json5

open BeanKit.Text

/-- Whether a character ends a line. -/
def endsLine (c : Char) : Bool := c = '\n' || c = '\r' || c = '\u2028' || c = '\u2029'

/-- Whether a character may stand between two tokens. -/
def isSpace (c : Char) : Bool := (isBlank c && c ≠ '\x85') || c = '\ufeff'

/-- What follows a comment behind its opening mark. -/
def afterBlockComment? : List Char → Option (List Char)
  | [] => none
  | '*' :: '/' :: rest => some rest
  | _ :: rest => afterBlockComment? rest

/-- A text from its first token on, where at most `fuel` comments stand in front of it. -/
def skipFrom : Nat → List Char → List Char
  | 0, cs => cs
  | fuel + 1, cs =>
    match cs.dropWhile isSpace with
    | '/' :: '/' :: rest => skipFrom fuel (rest.dropWhile (!endsLine ·))
    | '/' :: '*' :: rest =>
      match afterBlockComment? rest with
      | some rest => skipFrom fuel rest
      | none => '/' :: '*' :: rest
    | cs => cs

/-- A text from its first token on. -/
def skipSpace (cs : List Char) : List Char := skipFrom cs.length cs

/-! ## Texts and keys -/

/-- The character behind a backslash; digits have no meaning there, and other characters stand for
themselves. -/
def escaped? (c : Char) : Option Char :=
  match c with
  | 'b' => some '\x08'
  | 'f' => some '\x0c'
  | 'n' => some '\n'
  | 'r' => some '\r'
  | 't' => some '\t'
  | 'v' => some '\x0b'
  | '0' => some '\x00'
  | _ => if isDigit c || c = 'x' || c = 'u' then none else some c

/-- The number of so many hexadecimal digits. -/
def hexNumber? (width : Nat) (cs : List Char) : Taken Nat :=
  if (cs.take width).length < width then none
  else (digits? 16 (cs.take width)).map fun n => (n, cs.drop width)

/-- The character of four hexadecimal digits, or of two such groups that are a pair of
surrogates. -/
def unicodeEscape? (cs : List Char) : Taken Char :=
  (hexNumber? 4 cs).bind fun (high, rest) =>
    if 0xD800 ≤ high ∧ high ≤ 0xDBFF then
      match rest with
      | '\\' :: 'u' :: rest =>
        (hexNumber? 4 rest).bind fun (low, rest) =>
          if 0xDC00 ≤ low ∧ low ≤ 0xDFFF then
            some (Char.ofNat (0x10000 + (high - 0xD800) * 1024 + (low - 0xDC00)), rest)
          else none
      | _ => none
    else (codePoint? high).map fun c => (c, rest)

/-- The characters of a text up to the closing quote. -/
def textBody (q : Char) : Nat → List Char → Taken (List Char)
  | 0, _ => none
  | _, [] => none
  | fuel + 1, c :: rest =>
    if c = q then some ([], rest)
    else if c = '\\' then
      match rest with
      | '\r' :: '\n' :: rest => textBody q fuel rest
      | 'x' :: rest =>
        match hexEscape? 2 rest with
        | some (c, rest) => consTaken c (textBody q fuel rest)
        | none => none
      | 'u' :: rest =>
        match unicodeEscape? rest with
        | some (c, rest) => consTaken c (textBody q fuel rest)
        | none => none
      | c :: rest =>
        if endsLine c then textBody q fuel rest
        else
          match escaped? c with
          | some c => consTaken c (textBody q fuel rest)
          | none => none
      | [] => none
    else if endsLine c then none
    else consTaken c (textBody q fuel rest)

/-- Whether a character may start a key without quotes. -/
def startsKey (c : Char) : Bool := isAlphabetic c || c = '$' || c = '_'

/-- Whether a character may stand inside a key without quotes. -/
def isKeyChar (c : Char) : Bool :=
  startsKey c || isAlphanumeric c || c = '\u200c' || c = '\u200d' || c = '\u203f' || c = '\u2040'

/-- The characters of a key without quotes, of which the first is one of `allowed`. -/
def bareKey (allowed : Char → Bool) : Nat → List Char → List Char × List Char
  | fuel + 1, '\\' :: 'u' :: rest =>
    match unicodeEscape? rest with
    | some (c, rest) => let (key, rest) := bareKey isKeyChar fuel rest; (c :: key, rest)
    | none => ([], '\\' :: 'u' :: rest)
  | fuel + 1, c :: rest =>
    if allowed c then let (key, rest) := bareKey isKeyChar fuel rest; (c :: key, rest)
    else ([], c :: rest)
  | _, cs => ([], cs)

/-- A key. -/
def key (cs : List Char) : Taken (List Char) :=
  match cs with
  | '"' :: rest => textBody '"' (rest.length + 1) rest
  | '\'' :: rest => textBody '\'' (rest.length + 1) rest
  | _ =>
    let (key, rest) := bareKey startsKey cs.length cs
    if key.isEmpty then none else some (key, rest)

/-! ## Numbers -/

/-- Whether a character is a hexadecimal digit. -/
def isHexDigit (c : Char) : Bool := (hexDigit? c).isSome

/-- The exponent at the front of a text, where there is one. -/
def exponentLength (cs : List Char) : Nat :=
  match cs with
  | c :: rest =>
    let signs := (rest.take 1).countP fun c => c = '+' || c = '-'
    let digits := ((rest.drop signs).takeWhile isDigit).length
    if (c = 'e' ∨ c = 'E') ∧ 0 < digits then 1 + signs + digits else 0
  | [] => 0

/-- How many characters at the front of a text are a decimal number. -/
def decimalLength (cs : List Char) : Nat :=
  let whole := match cs with
    | '0' :: _ => 1
    | _ => (cs.takeWhile isDigit).length
  match cs.drop whole with
  | '.' :: rest =>
    let places := (rest.takeWhile isDigit).length
    if whole = 0 ∧ places = 0 then 0
    else whole + 1 + places + exponentLength (rest.drop places)
  | rest => if whole = 0 then 0 else whole + exponentLength rest

/-- A floating-point number that is finite. -/
def finite? (x : Double) : Option Tree :=
  match x.magnitude with
  | .finite _ _ => some (.float x)
  | _ => none

/-- The value of a decimal number: an integer where it has neither point nor exponent. -/
def decimal? (token : List Char) : Option Tree :=
  if token.any fun c => c = '.' || c = 'e' || c = 'E' then (Number.double? token).bind finite?
  else (Number.int64? token).map .int

/-- A number of the given sign. Only a minus sign can stand in front of a word, and no sign in front
of hexadecimal digits, which write at most thirty-two bits. -/
def number (sign cs : List Char) : Taken Tree :=
  match cs with
  | '0' :: x :: rest =>
    let digits := rest.takeWhile isHexDigit
    if (x = 'x' ∨ x = 'X') ∧ !digits.isEmpty then
      (digits? 16 digits).bind fun n =>
        if sign.isEmpty ∧ n < Nat.pow 2 32 then some (.int n, rest.drop digits.length) else none
    else decimal
  | _ =>
    match after? "Infinity".toList cs, after? "NaN".toList cs with
    | some rest, _ => if sign = ['+'] then none else some (.float (.infinity (!sign.isEmpty)), rest)
    | none, some rest => if sign = ['+'] then none else some (.float .nan, rest)
    | none, none => decimal
where
  /-- Reads a decimal number. -/
  decimal : Taken Tree :=
    let n := decimalLength cs
    if n = 0 then none else (decimal? (sign ++ cs.take n)).map fun t => (t, cs.drop n)

/-- A number with or without a sign. -/
def signedNumber : List Char → Taken Tree
  | '+' :: rest => number ['+'] rest
  | '-' :: rest => number ['-'] rest
  | cs => number [] cs

/-! ## Values -/

mutual

/-- A value. Every call takes at least one character, so the length of the text is fuel enough. -/
def value : Nat → List Char → Taken Tree
  | 0, _ => none
  | fuel + 1, cs =>
    match cs with
    | '"' :: rest => (textBody '"' (rest.length + 1) rest).map text
    | '\'' :: rest => (textBody '\'' (rest.length + 1) rest).map text
    | '{' :: rest => (fields fuel (skipSpace rest)).map fun (fs, rest) =>
      (.table (OrderedMap.ofList fs).entries, rest)
    | '[' :: rest => (items fuel (skipSpace rest)).map fun (ts, rest) => (.list ts, rest)
    | cs =>
      match after? "null".toList cs, after? "true".toList cs, after? "false".toList cs with
      | some rest, _, _ => some (.null, rest)
      | _, some rest, _ => some (.bool true, rest)
      | _, _, some rest => some (.bool false, rest)
      | none, none, none => signedNumber cs
where
  /-- A text as a tree. -/
  text (taken : List Char × List Char) : Tree × List Char :=
    (.text (String.ofList taken.1), taken.2)

/-- The fields of a table up to the closing brace. A comma stands between two of them and may stand
behind the last. -/
def fields : Nat → List Char → Taken (List (String × Tree))
  | 0, _ => none
  | fuel + 1, cs =>
    match cs with
    | '}' :: rest => some ([], rest)
    | cs =>
      match key cs with
      | none => none
      | some (k, rest) =>
        match skipSpace rest with
        | ':' :: rest =>
          match value fuel (skipSpace rest) with
          | none => none
          | some (t, rest) =>
            match skipSpace rest with
            | ',' :: rest =>
              (fields fuel (skipSpace rest)).map fun (fs, rest) =>
                ((String.ofList k, t) :: fs, rest)
            | '}' :: rest => some ([(String.ofList k, t)], rest)
            | _ => none
        | _ => none

/-- The items of a list up to the closing bracket. A comma stands between two of them and may stand
behind the last. -/
def items : Nat → List Char → Taken (List Tree)
  | 0, _ => none
  | fuel + 1, cs =>
    match cs with
    | ']' :: rest => some ([], rest)
    | cs =>
      match value fuel cs with
      | none => none
      | some (t, rest) =>
        match skipSpace rest with
        | ',' :: rest => (items fuel (skipSpace rest)).map fun (ts, rest) => (t :: ts, rest)
        | ']' :: rest => some ([t], rest)
        | _ => none

end

/-- The fields of the table that a document is. -/
def read (cs : List Char) : Option (List (String × Tree)) :=
  match value (cs.length + 1) (skipSpace cs) with
  | some (.table fields, rest) => if (skipSpace rest).isEmpty then some fields else none
  | _ => none

end BeanKit.Settings.Json5

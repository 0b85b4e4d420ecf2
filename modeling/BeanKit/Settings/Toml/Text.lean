import BeanKit.Settings.Reading
/-!
# Lines, texts and keys of TOML

What stands between the fields of a document, and the texts in quotes that are values and parts of
keys.
-/

namespace BeanKit.Settings.Toml

open BeanKit.Text

/-- Whether a character may stand between the tokens of a line. -/
def isSpace (c : Char) : Bool := c = ' ' || c = '\t'

/-- A text from its next token on the line. -/
def skipSpace (cs : List Char) : List Char := cs.dropWhile isSpace

/-- Whether a character may not stand in a comment or in a text on one line. -/
def isControl (c : Char) : Bool := (c.toNat < 32 && c ≠ '\t') || c = '\x7f'

/-- What follows a line break, where the text starts with one. -/
def afterBreak? : List Char → Option (List Char)
  | '\n' :: rest => some rest
  | '\r' :: '\n' :: rest => some rest
  | _ => none

/-- A text without the comment at its front. -/
def skipComment : List Char → List Char
  | '#' :: rest => rest.dropWhile fun c => !isControl c
  | cs => cs

/-- What follows the end of a line, where nothing but blanks and a comment stands before it. -/
def endOfLine? (cs : List Char) : Option (List Char) :=
  match skipComment (skipSpace cs) with
  | [] => some []
  | cs => afterBreak? cs

/-- A text without the blanks, line breaks and comments at its front, of which there are at most
`fuel`. -/
def skipLines : Nat → List Char → List Char
  | 0, cs => cs
  | fuel + 1, cs =>
    let cs := skipSpace cs
    match afterBreak? cs with
    | some rest => skipLines fuel rest
    | none =>
      match cs with
      | '#' :: _ => skipLines fuel (skipComment cs)
      | _ => cs

/-- The character behind a backslash, where it stands for itself or for a control character. -/
def escaped? : Char → Option Char
  | 'b' => some '\x08'
  | 't' => some '\t'
  | 'n' => some '\n'
  | 'f' => some '\x0c'
  | 'r' => some '\r'
  | '"' => some '"'
  | '\\' => some '\\'
  | _ => none

/-- The character that an escape stands for, behind its backslash. -/
def escape? : List Char → Taken Char
  | 'u' :: rest => hexEscape? 4 rest
  | 'U' :: rest => hexEscape? 8 rest
  | c :: rest => (escaped? c).map fun c => (c, rest)
  | [] => none

/-- The characters of a text in double quotes, up to the closing quote. -/
def basicBody : Nat → List Char → Taken (List Char)
  | 0, _ => none
  | fuel + 1, cs =>
    match cs with
    | [] => none
    | '"' :: rest => some ([], rest)
    | '\\' :: rest =>
      match escape? rest with
      | some (c, rest) => consTaken c (basicBody fuel rest)
      | none => none
    | c :: rest => if isControl c then none else consTaken c (basicBody fuel rest)

/-- The characters of a text in single quotes, up to the closing quote. -/
def literalBody : List Char → Taken (List Char)
  | [] => none
  | '\'' :: rest => some ([], rest)
  | c :: rest => if isControl c then none else consTaken c (literalBody rest)

/-- The quotes at the front of a text, five at most. -/
def quotes (q : Char) (cs : List Char) : Nat := ((cs.take 5).takeWhile (· = q)).length

/-- A text without the blanks and line breaks at its front, of which there are at most `fuel`. -/
def skipBreaks : Nat → List Char → List Char
  | 0, cs => cs
  | fuel + 1, cs =>
    match afterBreak? (skipSpace cs) with
    | some rest => skipBreaks fuel rest
    | none => skipSpace cs

/-- What follows a backslash at the end of a line: all blanks and line breaks are passed over. -/
def afterFold? (cs : List Char) : Option (List Char) :=
  (afterBreak? (skipSpace cs)).map fun rest => skipBreaks rest.length rest

/-- The characters of a text over several lines, up to the three closing quotes. Up to two more
quotes in front of them belong to the text. -/
def multilineBody (q : Char) : Nat → List Char → Taken (List Char)
  | 0, _ => none
  | fuel + 1, cs =>
    let n := quotes q cs
    if 3 ≤ n then some (List.replicate (n - 3) q, cs.drop n)
    else
      match afterBreak? cs with
      | some rest => consTaken '\n' (multilineBody q fuel rest)
      | none =>
        match cs with
        | [] => none
        | c :: rest =>
          if c = '\\' ∧ q = '"' then
            match afterFold? rest with
            | some rest => multilineBody q fuel rest
            | none =>
              match escape? rest with
              | some (c, rest) => consTaken c (multilineBody q fuel rest)
              | none => none
          else if isControl c then none
          else consTaken c (multilineBody q fuel rest)

/-- A text over several lines behind its opening quotes: a line break right there does not belong
to it. -/
def multiline (q : Char) (cs : List Char) : Taken (List Char) :=
  multilineBody q (cs.length + 1) ((afterBreak? cs).getD cs)

/-- A quoted text. -/
def quoted : List Char → Taken (List Char)
  | '"' :: '"' :: '"' :: rest => multiline '"' rest
  | '\'' :: '\'' :: '\'' :: rest => multiline '\'' rest
  | '"' :: rest => basicBody (rest.length + 1) rest
  | '\'' :: rest => literalBody rest
  | _ => none

/-- Whether a character may stand in a key without quotes. -/
def isKeyChar (c : Char) : Bool :=
  'a' ≤ c && c ≤ 'z' || 'A' ≤ c && c ≤ 'Z' || isDigit c || c = '_' || c = '-'

/-- One part of a key. -/
def keyPart (cs : List Char) : Taken (List Char) :=
  match cs with
  | '"' :: rest => basicBody (rest.length + 1) rest
  | '\'' :: rest => literalBody rest
  | _ =>
    let key := cs.takeWhile isKeyChar
    if key.isEmpty then none else some (key, cs.dropWhile isKeyChar)

/-- How many parts a key may have, and how deep lists and tables may lie in one another. -/
def greatestDepth : Nat := 79

/-- The parts of a key, with points between them, `fuel` of them at most. -/
def keyParts : Nat → List Char → Taken (List String)
  | 0, _ => none
  | fuel + 1, cs =>
    match keyPart (skipSpace cs) with
    | none => none
    | some (part, rest) =>
      match skipSpace rest with
      | '.' :: rest =>
        (keyParts fuel rest).map fun (parts, rest) => (String.ofList part :: parts, rest)
      | rest => some ([String.ofList part], rest)

/-- A key in its parts. -/
def keyPath (cs : List Char) : Taken (List String) := keyParts greatestDepth cs

end BeanKit.Settings.Toml

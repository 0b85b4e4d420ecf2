import BeanKit.Text.Visible
/-!
# Quoted text

A text between double quotes, in which every character that a reader could misread is written by an
escape: the quote and the backslash behind a backslash, the common control characters by a letter,
all other characters that do not show by themselves by their code point in hexadecimal. Around it
stand the two shapes in which diagnostics write structured data: lists in brackets and records in
braces.
-/

namespace BeanKit.Text

/-- A number in hexadecimal with small letters. -/
def hex (n : Nat) : List Char := Nat.toDigits 16 n

/-- A character by its code point: a backslash, the letter u, and the number in braces. -/
def escapeCode (c : Char) : List Char := ['\\', 'u', '\x7b'] ++ hex c.toNat ++ ['\x7d']

/-- A character inside double quotes. -/
def escape (c : Char) : List Char :=
  if c = '\x00' then ['\\', '0']
  else if c = '\t' then ['\\', 't']
  else if c = '\r' then ['\\', 'r']
  else if c = '\n' then ['\\', 'n']
  else if c = '\\' ∨ c = '"' then ['\\', c]
  else if isJoining c || !isPrintable c then escapeCode c
  else [c]

/-- A text in double quotes. -/
def quote (s : String) : String :=
  String.ofList ('"' :: s.toList.flatMap escape ++ ['"'])

/-- Whether a character would continue an octal escape. -/
def isOctalDigit (c : Char) : Bool := '0' ≤ c && c ≤ '7'

/-- The characters of a string literal of source text. It is a quoted text, except that the
zero character takes its hexadecimal form in front of an octal digit, lest the two be read as one
escape. -/
def literalBody : List Char → List Char
  | [] => []
  | c :: rest =>
    (if c = '\x00' ∧ rest.head?.any isOctalDigit then ['\\', 'x', '0', '0'] else escape c)
      ++ literalBody rest

/-- A string literal of source text. -/
def literal (s : String) : String := String.ofList ('"' :: literalBody s.toList ++ ['"'])

/-- Texts one after the other with a comma and a space between them. -/
def commas (items : List String) : String := ", ".intercalate items

/-- A list in brackets. -/
def bracketed (items : List String) : String := "[" ++ commas items ++ "]"

/-- A list of texts, each quoted, in brackets. -/
def quotedList (items : List String) : String := bracketed (items.map quote)

/-- A record: its name, then its fields in braces. -/
def record (name : String) (fields : List (String × String)) : String :=
  name ++ " \x7b " ++ commas (fields.map fun f => f.1 ++ ": " ++ f.2) ++ " \x7d"

/-- A truth value as a word. -/
def truth (b : Bool) : String := if b then "true" else "false"

end BeanKit.Text

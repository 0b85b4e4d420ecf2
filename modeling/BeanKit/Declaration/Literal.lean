import BeanKit.Text.Blank
import BeanKit.Text.Digits
/-!
# Literals of source text

What a literal takes of the text that it starts: a string between double quotes, which can be raw,
a character between single ones, or a number. A letter in front of the quotes says which kind of
string or character it is. `stringValue?` gives back the text that a string literal stands for.
-/

namespace BeanKit.Declaration

open BeanKit.Text

/-- What is taken from the front of a text, and the rest behind it. -/
abbrev Cut := List Char × List Char

/-- Whether a character may stand in a word: a letter or digit of ASCII, an underscore, or anything
beyond ASCII that is not blank. -/
def isWordChar (c : Char) : Bool := c.isAlphanum || c = '_' || (128 ≤ c.toNat && !isBlank c)

/-- Whether a character may start a word. -/
def isWordStart (c : Char) : Bool := isWordChar c && !isDigit c

/-- Takes more in front of what is taken. -/
def Cut.behind (front : List Char) (cut : Cut) : Cut := (front ++ cut.1, cut.2)

/-- Takes a word behind what is taken, where one stands there. -/
def Cut.withSuffix (cut : Cut) : Cut :=
  if cut.2.head?.any isWordStart then
    (cut.1 ++ cut.2.takeWhile isWordChar, cut.2.dropWhile isWordChar)
  else cut

/-! ## Between quotes -/

/-- The text up to the closing quote, with the quote. A backslash takes the next character with
it. -/
def upToQuote? (quote : Char) : List Char → Option Cut
  | [] => none
  | '\\' :: c :: rest => (upToQuote? quote rest).map (Cut.behind ['\\', c])
  | c :: rest =>
    if c = quote then some ([c], rest) else (upToQuote? quote rest).map (Cut.behind [c])

/-- Whether a text starts with so many number signs. -/
def startsHashes (n : Nat) (cs : List Char) : Bool := cs.take n = List.replicate n '#'

/-- The text up to the quote with so many number signs behind it, with these. -/
def upToHashes? (n : Nat) : List Char → Option Cut
  | [] => none
  | c :: rest =>
    if c = '"' && startsHashes n rest then some (c :: rest.take n, rest.drop n)
    else (upToHashes? n rest).map (Cut.behind [c])

/-- A string in which no character has another meaning, from its number signs on. -/
def raw? (cs : List Char) : Option Cut :=
  let hashes := cs.takeWhile (· = '#')
  match cs.dropWhile (· = '#') with
  | '"' :: rest => (upToHashes? hashes.length rest).map (Cut.behind (hashes ++ ['"']))
  | _ => none

/-- A character behind its opening quote, with the closing one. Without a closing quote the first
one belongs to a lifetime. -/
def character? : List Char → Option Cut
  | '\\' :: rest => upToQuote? '\'' ('\\' :: rest)
  | c :: '\'' :: rest => some ([c, '\''], rest)
  | _ => none

/-- A string or character, with the letters in front of its quotes. -/
def quoted? : List Char → Option Cut
  | '"' :: rest => (upToQuote? '"' rest).map (Cut.behind ['"'])
  | '\'' :: rest => (character? rest).map (Cut.behind ['\''])
  | 'r' :: rest => (raw? rest).map (Cut.behind ['r'])
  | 'b' :: 'r' :: rest => (raw? rest).map (Cut.behind ['b', 'r'])
  | 'c' :: 'r' :: rest => (raw? rest).map (Cut.behind ['c', 'r'])
  | 'b' :: '"' :: rest => (upToQuote? '"' rest).map (Cut.behind ['b', '"'])
  | 'c' :: '"' :: rest => (upToQuote? '"' rest).map (Cut.behind ['c', '"'])
  | 'b' :: '\'' :: rest => (character? rest).map (Cut.behind ['b', '\''])
  | _ => none

/-! ## Numbers -/

/-- Whether a character may stand among digits. -/
def isDigitChar (c : Char) : Bool := isDigit c || c = '_'

/-- The digits at the front of a text. -/
def digits (cs : List Char) : Cut := (cs.takeWhile isDigitChar, cs.dropWhile isDigitChar)

/-- An exponent from its letter on. It has a digit. -/
def exponent? : List Char → Option Cut
  | c :: rest =>
    if c = 'e' ∨ c = 'E' then
      let (sign, rest) := match rest with
        | '+' :: more => (['+'], more)
        | '-' :: more => (['-'], more)
        | _ => ([], rest)
      let (ds, rest) := digits rest
      if ds.any isDigit then some (c :: sign ++ ds, rest) else none
    else none
  | [] => none

/-- A number with a point or an exponent. A point in front of a word or another point is none of
the number. -/
def fraction? (cs : List Char) : Option Cut :=
  let (whole, rest) := digits cs
  match rest with
  | '.' :: more =>
    if more.head?.any fun c => c = '.' || isWordStart c then none
    else
      let (places, rest) := digits more
      let number := whole ++ '.' :: places
      match exponent? rest with
      | some cut => some (cut.behind number)
      | none => some (number, rest)
  | _ => (exponent? rest).map (Cut.behind whole)

/-- A number. -/
def number (cs : List Char) : Cut :=
  match fraction? cs with
  | some cut => cut.withSuffix
  | none => (cs.takeWhile isWordChar, cs.dropWhile isWordChar)

/-- The literal at the front of a text. -/
def literal? (cs : List Char) : Option Cut :=
  if cs.head?.any isDigit then some (number cs) else (quoted? cs).map Cut.withSuffix

/-! ## The value of a string -/

/-- The character that an escape of one letter stands for. -/
def letterEscape? : Char → Option Char
  | 'n' => some '\n'
  | 'r' => some '\r'
  | 't' => some '\t'
  | '0' => some '\x00'
  | '\\' => some '\\'
  | '\'' => some '\''
  | '"' => some '"'
  | _ => none

/-- The text between double quotes that start it. A line that ends in a backslash goes on where the
next one has its first character. Each step takes at least one character. -/
def cooked? : Nat → List Char → Option (List Char)
  | _, '"' :: _ => some []
  | fuel + 1, '\\' :: 'x' :: a :: b :: rest =>
    ((digits? 16 [a, b]).bind codePoint?).bind fun d => (cooked? fuel rest).map (d :: ·)
  | fuel + 1, '\\' :: 'u' :: '\x7b' :: rest =>
    let body := rest.takeWhile (· ≠ '\x7d')
    ((digits? 16 (body.filter (· ≠ '_'))).bind codePoint?).bind fun d =>
      (cooked? fuel (rest.drop (body.length + 1))).map (d :: ·)
  | fuel + 1, '\\' :: '\n' :: rest =>
    cooked? fuel (rest.dropWhile fun c => c = ' ' || c = '\t' || c = '\n' || c = '\r')
  | fuel + 1, '\\' :: c :: rest =>
    (letterEscape? c).bind fun d => (cooked? fuel rest).map (d :: ·)
  | fuel + 1, '\r' :: '\n' :: rest => (cooked? fuel rest).map ('\n' :: ·)
  | fuel + 1, c :: rest => (cooked? fuel rest).map (c :: ·)
  | _, _ => none

/-- The text that a string literal stands for. Other literals stand for none. -/
def stringValue? (written : String) : Option String :=
  match written.toList with
  | '"' :: rest => (cooked? rest.length rest).map String.ofList
  | 'r' :: rest =>
    let hashes := (rest.takeWhile (· = '#')).length
    (upToHashes? hashes (rest.drop (hashes + 1))).map fun cut =>
      String.ofList (cut.1.take (cut.1.length - 1 - hashes))
  | _ => none

end BeanKit.Declaration

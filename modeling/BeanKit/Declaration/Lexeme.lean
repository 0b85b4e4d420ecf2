import BeanKit.Declaration.Literal
import BeanKit.Declaration.Token
/-!
# Reading tokens

A lexeme is a token as it is met in a text: a mark knows whether another one follows it without a
gap, which tells a double colon from two colons. `scan` reads the lexemes of a text. Gaps and
comments separate lexemes and are none themselves.
-/

namespace BeanKit.Declaration

open BeanKit.Text

/-- A token as it is met in a text. -/
structure Lexeme where
  token : Token
  joins : Bool := false
  deriving Repr, DecidableEq, Inhabited

/-- The word at the front of a text, and the rest behind it. A word `r`, a number sign and a
further word make up one raw identifier. -/
def takeWord (cs : List Char) : Cut :=
  match cs.takeWhile isWordChar, cs.dropWhile isWordChar with
  | ['r'], '#' :: rest =>
    if rest.head?.any isWordStart then
      (['r', '#'] ++ rest.takeWhile isWordChar, rest.dropWhile isWordChar)
    else (['r'], '#' :: rest)
  | word, rest => (word, rest)

/-- Whether a character separates tokens: a blank, or a mark of the direction of writing. -/
def isGap (c : Char) : Bool := isBlank c || c = '\u200e' || c = '\u200f'

/-- Whether a character is a mark that can be part of a compound one. -/
def isMarkChar (c : Char) : Bool := "~!@#$%^&*-=+|;:,<.>/?'".toList.contains c

/-- Whether a mark follows in front of a text. The start of a comment is none. -/
def startsWithMark : List Char → Bool
  | '/' :: '/' :: _ | '/' :: '*' :: _ => false
  | c :: _ => isMarkChar c
  | [] => false

/-- What follows a comment that is closed, where so many more comments are open around it. -/
def afterComment : Nat → List Char → List Char
  | 0, '*' :: '/' :: rest => rest
  | depth + 1, '*' :: '/' :: rest => afterComment depth rest
  | depth, '/' :: '*' :: rest => afterComment (depth + 1) rest
  | depth, _ :: rest => afterComment depth rest
  | _, [] => []

/-- The lexemes of a text. Every step takes at least one character, so the length of the text is
fuel enough. -/
def scanFrom : Nat → List Char → List Lexeme
  | _, [] => []
  | 0, _ => []
  | fuel + 1, '/' :: '/' :: rest => scanFrom fuel (rest.dropWhile (· ≠ '\n'))
  | fuel + 1, '/' :: '*' :: rest => scanFrom fuel (afterComment 0 rest)
  | fuel + 1, c :: rest =>
    if isGap c then scanFrom fuel rest
    else
      match literal? (c :: rest) with
      | some (written, rest) => ⟨.literal (String.ofList written), false⟩ :: scanFrom fuel rest
      | none =>
        if isWordChar c then
          let (word, rest) := takeWord (c :: rest)
          ⟨.word (String.ofList word), false⟩ :: scanFrom fuel rest
        else
          ⟨.mark c, c = '\'' || isMarkChar c && startsWithMark rest⟩ :: scanFrom fuel rest

/-- The lexemes of a piece of source text. -/
def scan (source : String) : List Lexeme := scanFrom source.toList.length source.toList

/-- The tokens of lexemes. -/
def Lexeme.tokens (lexemes : List Lexeme) : List Token := lexemes.map (·.token)

/-- The tokens of a piece of source text. -/
def tokensOf (source : String) : List Token := Lexeme.tokens (scan source)

end BeanKit.Declaration

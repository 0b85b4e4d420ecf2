import BeanKit.Settings.Reading
/-!
# Places in a YAML text

A cursor is what is left of a text together with its place: lines and columns decide what belongs
together. A character of code zero ends a text as its end does.
-/

namespace BeanKit.Settings.Yaml

open BeanKit.Text

/-! ## Characters -/

/-- What stands behind the end of a text. -/
def endMark : Char := '\x00'

/-- Whether a character is a space or a tab. -/
def isSpace (c : Char) : Bool := c = ' ' || c = '\t'

/-- Whether a character breaks a line. -/
def isBreak (c : Char) : Bool := c = '\n' || c = '\r'

/-- Whether a character breaks a line or ends the text. -/
def endsLine (c : Char) : Bool := isBreak c || c = endMark

/-- Whether a character separates tokens. -/
def isGap (c : Char) : Bool := isSpace c || endsLine c

/-- Whether a character has a meaning of its own in lists and tables in brackets. -/
def isFlow (c : Char) : Bool := c = ',' || c = '[' || c = ']' || c = '{' || c = '}'

/-- Whether a character may stand in a word: the name of a directive or of a handle. -/
def isWord (c : Char) : Bool := c.isAlphanum || c = '_' || c = '-'

/-- Whether a character may stand in the name of an anchor. -/
def isAnchorChar (c : Char) : Bool := !isGap c && c ≠ '\ufeff' && !isFlow c

/-- Whether a character may stand in a resource name. -/
def isUriChar (c : Char) : Bool :=
  (isWord c && c ≠ '_') || "#;/?:@&=+$,_.!~*\x27()[]%".toList.contains c

/-- Whether a character may stand in a tag. -/
def isTagChar (c : Char) : Bool := isUriChar c && !isFlow c && c ≠ '!'

/-! ## Cursors -/

/-- A place in a text. The margin of a line is where only blanks stand in front. -/
structure Cursor where
  rest : List Char
  index : Nat := 0
  line : Nat := 0
  column : Nat := 0
  inMargin : Bool := true

namespace Cursor

/-- The character at a distance. -/
def peek (c : Cursor) (distance : Nat) : Char := c.rest.getD distance endMark

/-- The next character. -/
def next (c : Cursor) : Char := c.peek 0

/-- Whether the text ends here. -/
def atEnd (c : Cursor) : Bool := c.next = endMark

/-- Passes over blanks, or over characters whose margin does not count. -/
def passBlanks (c : Cursor) (n : Nat) : Cursor :=
  { c with rest := c.rest.drop n, index := c.index + n, column := c.column + n }

/-- Passes over characters, which ends the margin. -/
def pass (c : Cursor) (n : Nat) : Cursor := { c.passBlanks n with inMargin := n = 0 && c.inMargin }

/-- Passes over a line break, where one is next. -/
def passBreak (c : Cursor) : Cursor :=
  let width := if c.next = '\r' ∧ c.peek 1 = '\n' then 2 else if isBreak c.next then 1 else 0
  if width = 0 then c
  else
    { rest := c.rest.drop width
      index := c.index + width
      line := c.line + 1
      column := 0
      inMargin := true }

/-- The characters in front of the first that is none of some class. -/
def run (c : Cursor) (p : Char → Bool) : List Char := c.rest.takeWhile p

/-- Passes over the characters of a class, which ends the margin. -/
def passWhile (c : Cursor) (p : Char → Bool) : Cursor := c.pass (c.run p).length

/-- Passes over a comment up to the end of its line. -/
def passComment (c : Cursor) : Cursor :=
  if c.next = '#' then c.passWhile (!endsLine ·) else c

/-- Passes over the blanks of a class on a line, and over a comment behind them. A comment has a
blank in front of it. -/
def passGap? (c : Cursor) (p : Char → Bool) : Option Cursor :=
  let blanks := c.run p
  let c' := c.passBlanks blanks.length
  if c'.next = '#' ∧ blanks.isEmpty then none else some c'.passComment

/-- Whether one of the two marks between documents stands at the start of this line. -/
def atDocumentMark (c : Cursor) : Bool :=
  c.column = 0 && isGap (c.peek 3) &&
    (c.rest.take 3 = ['-', '-', '-'] || c.rest.take 3 = ['.', '.', '.'])

end Cursor
end BeanKit.Settings.Yaml

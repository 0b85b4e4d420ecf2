import BeanKit.Number.Reading
import BeanKit.Settings.Tree
import BeanKit.Text.Digits
/-!
# Common parts of the file formats

Every reader of a format takes a piece off the front of a text and hands on what follows it, or
finds that the text is not well formed.
-/

namespace BeanKit.Settings

open BeanKit.Text

/-- A piece taken off the front of a text, and the rest. -/
abbrev Taken (α : Type) := Option (α × List Char)

/-- The character that so many hexadecimal digits write by its code point. -/
def hexEscape? (width : Nat) (cs : List Char) : Taken Char :=
  let digits := cs.take width
  if digits.length < width then none
  else ((digits? 16 digits).bind codePoint?).map fun c => (c, cs.drop width)

/-- Puts a character in front of a piece. -/
def consTaken (c : Char) : Taken (List Char) → Taken (List Char)
  | some (cs, rest) => some (c :: cs, rest)
  | none => none

/-- A text without the mark that may stand in front of it for the order of its bytes. -/
def withoutMark : List Char → List Char
  | c :: rest => if c = '\ufeff' then rest else c :: rest
  | [] => []

/-- A small decimal as a scalar: an integer where it fits sixty-four bits, else the nearest
floating-point number. -/
def intOrFloat (negative : Bool) (n : Nat) : Tree :=
  match Number.signed? negative n with
  | some i => .int i
  | none => .float (Double.ofDecimal negative n 0)

end BeanKit.Settings

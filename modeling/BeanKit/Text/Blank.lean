import BeanKit.Text.Spans
/-!
# Blank characters

The code points with the White_Space property, and what follows from them for a text: trimming at
both ends, and the test for a text with nothing else in it.
-/

namespace BeanKit.Text

/-- The code points with the White_Space property. -/
def blankSpans : List Span :=
  [⟨0x9, 0xD⟩, ⟨0x20, 0x20⟩, ⟨0x85, 0x85⟩, ⟨0xA0, 0xA0⟩, ⟨0x1680, 0x1680⟩, ⟨0x2000, 0x200A⟩,
   ⟨0x2028, 0x2029⟩, ⟨0x202F, 0x202F⟩, ⟨0x205F, 0x205F⟩, ⟨0x3000, 0x3000⟩]

/-- Whether a character is white space. -/
def isBlank (c : Char) : Bool := Span.holds blankSpans c.toNat

/-- The characters without the blank ones at both ends. -/
def trim (cs : List Char) : List Char :=
  ((cs.dropWhile isBlank).reverse.dropWhile isBlank).reverse

/-- Whether nothing is left of a text once it is trimmed. -/
def isBlankText (s : String) : Bool := s.toList.all isBlank

end BeanKit.Text

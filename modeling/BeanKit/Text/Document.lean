import BeanKit.Text.Quoted
/-!
# Documents

Texts, lists and tables inside one another, and their written form: a list has one item on a line
and a table one field on a line, two spaces further in than what is around them; what is empty
stands on one line. The fields of a table stand in the order in which they are given.
-/

namespace BeanKit.Text

/-- A document. -/
inductive Document where
  | text (s : String)
  | list (items : List Document)
  | table (fields : List (String × Document))

namespace Document

/-- A character inside a text of a document: the quote, the backslash and the control characters
are escaped, all others stand as they are. -/
def escape (c : Char) : List Char :=
  if c = '"' ∨ c = '\\' then ['\\', c]
  else if c = '\x08' then ['\\', 'b']
  else if c = '\x0c' then ['\\', 'f']
  else if c = '\n' then ['\\', 'n']
  else if c = '\r' then ['\\', 'r']
  else if c = '\t' then ['\\', 't']
  else if c.toNat < 32 then
    let digits := hex c.toNat
    ['\\', 'u'] ++ List.replicate (4 - digits.length) '0' ++ digits
  else [c]

/-- A text of a document. -/
def quote (s : String) : String := String.ofList ('"' :: s.toList.flatMap escape ++ ['"'])

/-- A new line at some depth. -/
def newLine (depth : Nat) : String := "\n" ++ String.ofList (List.replicate (2 * depth) ' ')

/-- Lines between two brackets, at some depth; without lines the brackets alone. -/
def block (opening closing : String) (depth : Nat) (lines : List String) : String :=
  if lines.isEmpty then opening ++ closing
  else
    let separator := "," ++ newLine (depth + 1)
    opening ++ newLine (depth + 1) ++ separator.intercalate lines ++ newLine depth ++ closing

mutual

/-- The written form of a document that stands at some depth. -/
def render (depth : Nat) : Document → String
  | .text s => quote s
  | .list items => block "[" "]" depth (renderItems (depth + 1) items)
  | .table fields => block "\x7b" "\x7d" depth (renderFields (depth + 1) fields)

/-- The written forms of the items of a list. -/
def renderItems (depth : Nat) : List Document → List String
  | [] => []
  | d :: rest => d.render depth :: renderItems depth rest

/-- The written forms of the fields of a table. -/
def renderFields (depth : Nat) : List (String × Document) → List String
  | [] => []
  | (key, d) :: rest => (quote key ++ ": " ++ d.render depth) :: renderFields depth rest

end

/-- The written form of a document. -/
def pretty (d : Document) : String := d.render 0

end Document
end BeanKit.Text

import BeanKit.Entity
import BeanKit.Naming
import BeanKit.Query.Keyword
/-!
# Fields as they stand in a query name

A field stands in a query name capitalised. Where several names match, the longest in bytes is
taken, and of equal ones the first declared; so one field name may be the start of another.
-/

namespace BeanKit.Query

/-- A field with the name that stands for it in a query name. -/
structure Candidate where
  spelling : List Char
  field : String
  column : String
  deriving Repr, DecidableEq

/-- How many bytes a spelling takes. -/
def Candidate.weight (c : Candidate) : Nat := c.spelling.foldr (fun c n => c.utf8Size + n) 0

/-- The fields of an entity in the order in which they are tried. -/
abbrev FieldIndex := List Candidate

/-- The fields of a map, the longest spellings first; equal ones stay in the order of the map. -/
def FieldIndex.ofMap (fields : FieldMap) : FieldIndex :=
  (fields.entries.map fun e => ⟨Naming.capitalizeChars e.1.toList, e.1, e.2⟩).mergeSort
    fun a b => b.weight ≤ a.weight

/-- The first field whose spelling the text starts with, and the text after it. -/
def FieldIndex.match? : FieldIndex → List Char → Option (Candidate × List Char)
  | [], _ => none
  | c :: rest, text =>
    match Text.after? c.spelling text with
    | some after => some (c, after)
    | none => FieldIndex.match? rest text

/-- The first of some words that the text starts with, and the text after it. -/
def matchWord? {α : Type} (word : α → String) : List α → List Char → Option (α × List Char)
  | [], _ => none
  | a :: rest, text =>
    match Text.after? (word a).toList text with
    | some after => some (a, after)
    | none => matchWord? word rest text

/-- The comparison that the text starts with. -/
def comparison? : List Char → Option (Comparison × List Char) :=
  matchWord? Comparison.word Comparison.inMatchOrder

/-- The connective that the text starts with. -/
def connective? : List Char → Option (Connective × List Char) :=
  matchWord? Connective.word Connective.inMatchOrder

/-- Whether the text, where a field belongs, starts with a connective that is out of place: one
followed by nothing, by another connective, or by a field. Any other word that happens to start
like a connective counts as an unknown field. -/
def FieldIndex.isMisplaced (index : FieldIndex) (text : List Char) : Bool :=
  match connective? text with
  | none => false
  | some (_, after) => after.isEmpty || (connective? after).isSome || (index.match? after).isSome

end BeanKit.Query

import BeanKit.Text.Blank
import BeanKit.Text.Pieces
/-!
# Type names

A type is known to the container by its identity. For a concrete type that is the name as written,
blanks around it taken off, generic arguments included. For a trait object it is the bare path of
the trait, so that all instantiations of one trait are one interface.
-/

namespace BeanKit

open BeanKit.Text

/-- A type: its identity, and the name it was written with. -/
structure TypeRef where
  name : String
  fullName : String
  deriving Repr, DecidableEq, Inhabited

namespace TypeRef

/-- The word in front of a trait object. -/
def objectMark : List Char := "dyn ".toList

/-- Whether a character ends the path of a trait object. -/
def endsPath (c : Char) : Bool := c = '<' || isBlank c

/-- The identity of a type name: a trait object keeps what stands between the mark and the first
generic argument or blank, any other name is trimmed. -/
def erase (cs : List Char) : List Char :=
  let trimmed := trim cs
  match after? objectMark trimmed with
  | some path => path.takeWhile (!endsPath ·)
  | none => trimmed

/-- The type that a name stands for. -/
def named (name : String) : TypeRef := ⟨String.ofList (erase name.toList), name⟩

/-- The last segment of the path, with its generic arguments. -/
def shortName (t : TypeRef) : String :=
  let cs := t.name.toList
  let path := cs.takeWhile (· ≠ '<')
  String.ofList (afterLastPair ':' ':' path ++ cs.drop path.length)

/-- The separator of path segments. -/
def separator : List Char := "::".toList

/-- Whether a name lies in a namespace: the namespace, separators at its end taken off, is empty,
or the name itself, or followed in the name by a separator. -/
def inNamespace (t : TypeRef) (space : String) : Bool :=
  let space := dropTails separator space.toList
  let name := t.name.toList
  space.isEmpty || name = space ||
    match after? space name with
    | some rest => startsWith separator rest
    | none => false

end TypeRef
end BeanKit

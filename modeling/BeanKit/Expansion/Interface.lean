import BeanKit.Expansion.Registration
/-!
# Interfaces

The expansion of a trait that is an interface of the container: the trait as it stands, and a
definition of its trait object.
-/

namespace BeanKit.Expansion

open BeanKit.Declaration

/-- What an interface expands to. -/
structure InterfaceExpansion where
  declaration : TraitDecl
  registration : String

namespace InterfaceExpansion

/-- The expansion of a trait. -/
def ofDecl (t : TraitDecl) : Except ExpansionError InterfaceExpansion :=
  if !t.generics.isEmpty then .error .genericInterface
  else (Registered.interface.function t.name).map fun registration => ⟨t, registration⟩

/-- The generated code. -/
def tokens (e : InterfaceExpansion) : List Token :=
  let object := dynOf [.word e.declaration.name]
  e.declaration.tokens ++
    registrable object (newDefinition (newDescriptor "interface" object ++ [.mark ','])) ++
    emptyImpl "Interface" object ++ registering e.registration object

end InterfaceExpansion
end BeanKit.Expansion

import BeanKit.Declaration.Basic
import BeanKit.Expansion.Error
import BeanKit.Naming
/-!
# Registration

The part that all expansions have in common: a definition of the declared type, and a function that
runs when the program is loaded and hands the type to the inventory. The function is named for the
kind of the declaration and for the type.
-/

namespace BeanKit.Expansion

open BeanKit.Declaration

/-- The kinds of declarations that register themselves. -/
inductive Registered where
  | entity
  | component
  | interface
  | repository
  deriving Repr, DecidableEq

/-- The word for a kind in the name of a registration function. -/
def Registered.word : Registered → String
  | entity => "entity"
  | component => "component"
  | interface => "interface"
  | repository => "repository"

/-- The name of the function that registers a type. -/
def registrationName (kind : Registered) (type : String) : String :=
  "__lorn_di_register_" ++ kind.word ++ "_" ++ Naming.snake type

/-- Whether an identifier is raw. -/
def isRaw (name : String) : Bool := name.toList.contains '#'

/-- The name of the function that registers a type. There is none for a raw identifier. -/
def Registered.function (kind : Registered) (type : String) : Except ExpansionError String :=
  if isRaw type then .error (.rawName type) else .ok (registrationName kind type)

theorem Registered.function_eq_ok_iff {kind : Registered} {type name : String} :
    kind.function type = .ok name ↔ isRaw type = false ∧ registrationName kind type = name := by
  unfold Registered.function
  cases isRaw type <;> simp

/-! ## Generated code -/

/-- The type information of a type. -/
def typeInfo (type : List Token) : List Token :=
  tokensOf "::infrastructure_common::TypeInfo::of::<" ++ type ++ tokensOf ">()"

/-- The trait object type of a trait. -/
def dynOf (path : List Token) : List Token := .word "dyn" :: path

/-- The implementation by which a type has a definition. -/
def registrable (type body : List Token) : List Token :=
  tokensOf "impl ::di_abstractions::Registrable for" ++ type ++
    braces (tokensOf "fn type_definition() -> ::di_abstractions::TypeDefinition" ++ braces body)

/-- An implementation of a trait without members. -/
def emptyImpl (trait : String) (type : List Token) : List Token :=
  tokensOf "impl ::di_abstractions::" ++ .word trait :: .word "for" :: type ++ braces []

/-- The function that registers a type. -/
def registering (function : String) (type : List Token) : List Token :=
  tokensOf "#[ctor::ctor] fn" ++ .word function :: parens [] ++
    braces (tokensOf "::di_impl::TypeInventory::submit_type::<" ++ type ++ tokensOf ">();")

/-- The type descriptor under construction: of a concrete type, or of an interface. -/
def newDescriptor (constructor : String) (type : List Token) : List Token :=
  tokensOf "::infrastructure_common::TypeDescriptor::" ++ .word constructor ::
    parens (typeInfo type ++ [.mark ','])

/-- The type definition under construction. -/
def newDefinition (arguments : List Token) : List Token :=
  tokensOf "::di_abstractions::TypeDefinition::new" ++ parens arguments

end BeanKit.Expansion

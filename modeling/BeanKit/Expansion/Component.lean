import BeanKit.Expansion.Arguments
import BeanKit.Expansion.Registration
/-!
# Components

The expansion of a data type that is derived as a component: a constructor by the default value, a
cast to each interface that its attributes list, and, where they say so, the injection points of its
method block.
-/

namespace BeanKit.Expansion

open BeanKit.Declaration

/-- What the attributes of a component say: the interfaces in the order in which they are listed,
and whether there are injection points. -/
structure ComponentArgs where
  implements : List TypeExpr := []
  autowired : Bool := false

namespace ComponentArgs

/-- Adds an argument of the given name, with what belongs to it. -/
def add (args : ComponentArgs) (name : List String) : ArgumentReader ComponentArgs := do
  if name = ["implements"] then
    let (interfaces, _) ← reading (inBrackets '(' (commaItems anyType))
    return { args with implements := args.implements ++ interfaces }
  else if name = ["autowired"] then return { args with autowired := true }
  else throw .unknownComponentKey

/-- What all attributes of a component say together. -/
def ofAttributes (attributes : List Attribute) : Except ExpansionError ComponentArgs :=
  (attributes.filter (·.isNamed "component")).foldlM (Arguments.fold add) {}

end ComponentArgs

/-- What a component expands to. -/
structure ComponentExpansion where
  name : String
  args : ComponentArgs
  registration : String

namespace ComponentExpansion

/-- The expansion of a data type. The generic parameters are looked at first, then the body, then
the attributes, and last the interfaces, which are trait objects. -/
def ofDecl (d : DataDecl) : Except ExpansionError ComponentExpansion :=
  if !d.generics.isEmpty then .error .genericComponent
  else if !d.body.isStruct then .error .componentOfOtherKind
  else do
    let args ← ComponentArgs.ofAttributes d.attributes
    if args.implements.all TypeExpr.isTraitObject then
      let registration ← Registered.component.function d.name
      return ⟨d.name, args, registration⟩
    else .error .notTraitObject

/-- The call that adds a cast to an interface. -/
def castTokens (interface : TypeExpr) : List Token :=
  tokensOf ".implements" ++
    parens (typeInfo interface.tokens ++ tokensOf ", |bean|" ++
      braces (tokensOf "::di_abstractions::downcast_component::<Self>(bean).map" ++
        parens (tokensOf "|component| ::di_abstractions::interface_bean::<" ++
          interface.tokens ++ tokensOf ">(component)")))

/-- The constructor of a component. -/
def constructorTokens : List Token :=
  tokensOf "||" ++ braces (tokensOf
    ("::std::result::Result::Ok(::di_abstractions::component_bean(" ++
      "::std::sync::Arc::new(<Self as ::std::default::Default>::default()),))"))

/-- The generated code. -/
def tokens (e : ComponentExpansion) : List Token :=
  let self := [.word e.name]
  let body :=
    tokensOf "let definition =" ++
      newDefinition (newDescriptor "concrete" [.word "Self"] ++
        tokensOf ".with_tag(::infrastructure_common::Tag::Component),") ++
      tokensOf ".with_constructor" ++ parens constructorTokens ++
      e.args.implements.flatMap castTokens ++ [.mark ';'] ++
      (if e.args.autowired then
        tokensOf ("let definition = " ++
          "<Self as ::di_abstractions::AutowirePoints>::autowire_points(definition);")
      else []) ++
      [.word "definition"]
  registrable self body ++ emptyImpl "Component" self ++ registering e.registration self

end ComponentExpansion
end BeanKit.Expansion

import BeanKit.Expansion.Registration
/-!
# Setters

The expansion of a block of methods in which some are marked as setters of dependencies: the block
without the marks, and one injector for each marked method. A setter with one parameter takes a
shared handle; one with any other number is left for the container to refuse, by an injector that
always fails.
-/

namespace BeanKit.Expansion

open BeanKit.Declaration

/-- How a dependency is looked up: as an interface or as a component. -/
inductive Lookup where
  | interface
  | component
  deriving Repr, DecidableEq

/-- The look-up of a type: trait objects are interfaces. -/
def Lookup.ofType (t : TypeExpr) : Lookup := if t.isTraitObject then .interface else .component

/-- What an injector does: it passes on the dependency that a look-up finds, or it fails. -/
inductive Injection where
  | passes (lookup : Lookup) (dependency : TypeExpr)
  | fails

/-- The injector of a setter: the types of its parameters as dependencies, and what it does. -/
structure Injector where
  method : String
  dependencies : List TypeExpr
  injection : Injection

/-- What a block of methods expands to. -/
structure SettersExpansion where
  block : MethodBlock
  injectors : List Injector

/-! ## Setters in a block -/

/-- Whether an attribute marks a setter. -/
def marksSetter (a : Attribute) : Bool := a.isNamed "autowire"

/-- Whether a method is a setter. -/
def isSetter (m : MethodDecl) : Bool := m.attributes.any marksSetter

/-- A method without the marks of a setter. -/
def unmarked (m : MethodDecl) : MethodDecl :=
  { m with attributes := m.attributes.filter (!marksSetter ·) }

/-- A member of a block without the marks of a setter, which only a method can have. -/
def unmarkedMember : Member → Member
  | .method m => .method (unmarked m)
  | .other attributes item => .other attributes item

/-- What the injector of a setter does: one parameter is a handle. -/
def injectionOf : List Param → Except ExpansionError Injection
  | [p] =>
    match p.type.pointee? with
    | some dependency => .ok (.passes (.ofType dependency) dependency)
    | none => .error .setterWithoutHandle
  | _ => .ok .fails

/-- The injector of a setter. The receiver is looked at first, then the output, then the
parameters. -/
def Injector.ofDecl (m : MethodDecl) : Except ExpansionError Injector :=
  let s := m.signature
  if !s.receiver.any Receiver.isShared then .error .noSharedReceiver
  else if s.output.isSome then .error .setterWithOutput
  else (injectionOf s.params).map fun injection =>
    ⟨s.name, s.params.map (·.type.pointee), injection⟩

/-! ## The expansion -/

namespace Injector

/-- The function of an injector. -/
def functionTokens (i : Injector) : List Token :=
  match i.injection with
  | .passes lookup dependency =>
    let expect := match lookup with
      | .interface => tokensOf "::di_abstractions::expect_interface::<"
      | .component => tokensOf "::di_abstractions::expect_component::<"
    tokensOf "|bean, dependency|" ++
      braces (tokensOf "let target = ::di_abstractions::expect_component::<Self>(bean)?;" ++
        tokensOf "target." ++ .word i.method ::
          parens (expect ++ dependency.tokens ++ tokensOf ">(&dependency)?") ++
        tokensOf "; ::std::result::Result::Ok(())")
  | .fails =>
    tokensOf "|_, _|" ++
      braces (tokensOf "::std::result::Result::Err" ++
        parens (tokensOf "::infrastructure_common::ContainerError::wiring" ++
          parens (tokensOf "::std::any::type_name::<Self>()," ++
            [.ofString i.method, .mark ',', .ofString "注入方法必须且只能声明一个参数", .mark ','])))

/-- The call that adds an injector. -/
def tokens (i : Injector) : List Token :=
  let dependencies := commaSeparated (i.dependencies.map fun t => typeInfo t.tokens)
  tokensOf ".with_injector" ++
    parens (tokensOf "::infrastructure_common::MethodDescriptor::new" ++
      parens (.ofString i.method :: .mark ',' :: tokensOf "::std::vec!" ++
        brackets dependencies ++ [.mark ',']) ++
      tokensOf ".with_tag(::infrastructure_common::Tag::Autowire)," ++ i.functionTokens)

end Injector

namespace SettersExpansion

/-- The expansion of a block. That it is of no trait is looked at first, then its generic
parameters, then the setters in their order. -/
def ofBlock (b : MethodBlock) : Except ExpansionError SettersExpansion :=
  if b.isOfTrait then .error .traitBlock
  else if !b.generics.isEmpty then .error .genericBlock
  else
    ((b.methods.filter isSetter).mapM Injector.ofDecl).map fun injectors =>
      ⟨{ b with members := b.members.map unmarkedMember }, injectors⟩

/-- The generated code. -/
def tokens (e : SettersExpansion) : List Token :=
  let definition := tokensOf "::di_abstractions::TypeDefinition"
  e.block.tokens ++
    tokensOf "impl ::di_abstractions::AutowirePoints for" ++ e.block.self.tokens ++
      braces (tokensOf "fn autowire_points" ++
        parens (tokensOf "definition:" ++ definition ++ [.mark ',']) ++
        tokensOf "->" ++ definition ++
        braces (.word "definition" :: e.injectors.flatMap Injector.tokens))

end SettersExpansion
end BeanKit.Expansion

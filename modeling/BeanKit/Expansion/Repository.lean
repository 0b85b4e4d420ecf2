import BeanKit.Expansion.Arguments
import BeanKit.Expansion.Registration
/-!
# Repository interfaces

The expansion of a trait that is a repository interface: the trait as it stands, a definition of its
trait object with the parents, the type arguments and a proxy factory, and the proxy's own
implementation of the trait, which hands each method without a body to the query of its name.
-/

namespace BeanKit.Expansion

open BeanKit.Declaration

/-- The id type and the entity type that the attribute of a repository gives. -/
structure RepositoryArgs where
  id : Option TypeExpr := none
  entity : Option TypeExpr := none

namespace RepositoryArgs

/-- Sets the type that a key stands for. -/
def set (args : RepositoryArgs) (key : String) (type : TypeExpr) :
    Except ExpansionError RepositoryArgs :=
  if key = "id" then .ok { args with id := some type }
  else if key = "entity" then .ok { args with entity := some type }
  else .error .unknownRepositoryKey

/-- Reads keys with their types; the last of several with one key counts. Each takes a lexeme at
least. -/
def readFrom : Nat → RepositoryArgs → ArgumentReader RepositoryArgs
  | 0, args => return args
  | fuel + 1, args => do
    if (← get).isEmpty then return args
    let key ← reading takeIdentifier
    reading (takeMark '=')
    let type ← reading anyType
    let args ← args.set key type
    if (← get).isEmpty then return args
    reading (takeMark ',')
    readFrom fuel args

/-- The arguments that keys and the texts of their types write. -/
def read (pairs : List (String × String)) (trailing : Bool) :
    Except ExpansionError RepositoryArgs :=
  let ls := scan (", ".intercalate (pairs.map fun p => p.1 ++ " = " ++ p.2) ++
    if trailing then "," else "")
  ((readFrom (ls.length + 1) {}).run ls).map (·.1)

end RepositoryArgs

/-- A method that the proxy forwards: its signature, the name of the query, and the parameters that
are the query's arguments. -/
structure ForwardedMethod where
  signature : Signature
  query : String
  arguments : List String

/-- What a repository interface expands to. -/
structure RepositoryExpansion where
  declaration : TraitDecl
  parents : List TypePath
  idType : TypeExpr
  entityType : TypeExpr
  methods : List ForwardedMethod
  registration : String

/-! ## Parents and type arguments -/

/-- The traits that say nothing about a repository. -/
def markerTraits : List String := ["Send", "Sync", "Sized", "Unpin"]

/-- The parents of a trait: the paths of its bounds, the marker traits left out. -/
def parentsOf (t : TraitDecl) : List TypePath :=
  (t.bounds.filterMap Bound.path?).filter fun p => p.name ∉ markerTraits

/-- The name of the trait that all repositories descend from. -/
def rootTrait : String := "CrudRepository"

/-- The two type arguments of the root trait, where a path is that. -/
def rootTypes? (p : TypePath) : Option (TypeExpr × TypeExpr) :=
  match p.arguments.types with
  | [id, entity] => if p.name = rootTrait then some (id, entity) else none
  | _ => none

/-- The type arguments of a repository: both as given, or else those of the first parent that has
them. -/
def typeArguments (args : RepositoryArgs) (parents : List TypePath) :
    Except ExpansionError (TypeExpr × TypeExpr) :=
  match args.id, args.entity with
  | some id, some entity => .ok (id, entity)
  | none, none =>
    match parents.findSome? rootTypes? with
    | some types => .ok types
    | none => .error .noRepositoryTypes
  | _, _ => .error .halfRepositoryTypes

/-! ## Forwarded methods -/

/-- A token list without a word at its front. -/
def withoutWord (word : String) : List Token → List Token
  | .word w :: rest => if w = word then rest else .word w :: rest
  | tokens => tokens

/-- Words that are no identifier a value can be bound to. -/
def isReserved (word : String) : Bool :=
  word ∈ ["_", "true", "false", "self", "Self", "super", "crate"] ||
    word.toList.head?.any Text.isDigit

/-- The identifier that a pattern binds, where it is no more than that. -/
def bindingOf (pattern : List Token) : Option String :=
  match withoutWord "mut" (withoutWord "ref" pattern) with
  | [.word name] | .word name :: .mark '@' :: _ => if isReserved name then none else some name
  | _ => none

/-- The query argument that a parameter becomes. -/
def argumentOfParam (p : Param) : Except ExpansionError String :=
  match bindingOf p.pattern with
  | some name => .ok name
  | none => .error .compoundParameter

/-- A method as the proxy forwards it. -/
def ForwardedMethod.ofDecl (m : TraitMethod) : Except ExpansionError ForwardedMethod :=
  (m.signature.params.mapM argumentOfParam).map fun arguments =>
    ⟨m.signature, Naming.camel m.signature.name, arguments⟩

namespace ForwardedMethod

/-- The proxy's method. -/
def tokens (f : ForwardedMethod) : List Token :=
  let arguments := f.arguments.map fun name =>
    tokensOf "::infrastructure_common::Value::from" ++ parens [.word name]
  f.signature.tokens ++
    braces (tokensOf "self.invoke" ++
      parens (.ofString f.query :: .mark ',' :: .mark '&' ::
        brackets (commaSeparated arguments)))

end ForwardedMethod

/-! ## The expansion -/

namespace RepositoryExpansion

/-- The expansion of a trait. The generic parameters are looked at first, then the type arguments,
then the methods without a body in their order. -/
def ofDecl (args : RepositoryArgs) (t : TraitDecl) : Except ExpansionError RepositoryExpansion :=
  if !t.generics.isEmpty then .error .genericRepository
  else do
    let parents := parentsOf t
    let (idType, entityType) ← typeArguments args parents
    let methods ← t.required.mapM ForwardedMethod.ofDecl
    let registration ← Registered.repository.function t.name
    return { declaration := t, parents, idType, entityType, methods, registration }

/-- The proxy type of a repository. -/
def proxyTypes (e : RepositoryExpansion) : List Token :=
  .mark '<' :: e.idType.tokens ++ .mark ',' :: e.entityType.tokens ++ [.mark '>']

/-- The factory of proxies. -/
def factoryTokens (e : RepositoryExpansion) (object : List Token) : List Token :=
  tokensOf "|target, metadata|" ++
    braces (tokensOf "::di_abstractions::interface_bean::<" ++ object ++ [.mark '>'] ++
      parens (tokensOf "::std::sync::Arc::new" ++
        parens (tokensOf "::di_impl::RepositoryProxy::" ++ e.proxyTypes ++
          tokensOf "::new(target, metadata),")))

/-- The generated code. -/
def tokens (e : RepositoryExpansion) : List Token :=
  let object := dynOf [.word e.declaration.name]
  let parents := e.parents.flatMap fun p =>
    tokensOf ".with_interface" ++ parens (typeInfo (dynOf p.tokens))
  let types := tokensOf "::std::vec!" ++
    brackets (typeInfo e.idType.tokens ++ .mark ',' :: typeInfo e.entityType.tokens ++ [.mark ','])
  e.declaration.tokens ++
    registrable object
      (newDefinition (newDescriptor "interface" object ++ parents ++
          tokensOf ".with_type_arguments" ++ parens types ++ [.mark ',']) ++
        tokensOf ".with_proxy_factory" ++ parens (e.factoryTokens object)) ++
    emptyImpl "Interface" object ++
    tokensOf "impl" ++ .word e.declaration.name ::
      tokensOf "for ::di_impl::RepositoryProxy" ++ e.proxyTypes ++
      braces (e.methods.flatMap ForwardedMethod.tokens) ++
    registering e.registration object

end RepositoryExpansion
end BeanKit.Expansion

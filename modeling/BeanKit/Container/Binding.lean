import BeanKit.Container.Catalog
import BeanKit.Container.Registry
/-!
# Repository interfaces and their implementations

A repository interface leads, along declared parents, to a root that is tagged as a repository; the
one concrete type that implements the root serves it. Both searches run over an arbitrary graph of
declarations: what gets smaller is the list of names not visited yet, and within one name the stack
of what is still to be looked at.
-/

namespace BeanKit

namespace Catalog

/-- The definitions of a type's declared interfaces, as far as the catalog has them. -/
def parents (c : Catalog) (d : Definition) : List Definition :=
  d.descriptor.interfaces.filterMap fun t => c.get? t.name

/-- Looks for a root on the stack: what is visited or no root makes way for its parents, the last
of them first. -/
def rootFrom (c : Catalog) (unvisited : List String) (stack : List Definition) :
    Option Definition :=
  match stack with
  | [] => none
  | d :: rest =>
    if _h : d.name ∈ unvisited then
      if d.descriptor.isRepository then some d
      else c.rootFrom (unvisited.erase d.name) ((c.parents d).reverse ++ rest)
    else c.rootFrom unvisited rest
termination_by (unvisited.length, stack.length)
decreasing_by
  · have := List.length_erase_of_mem _h
    have := List.length_pos_of_mem _h
    exact Prod.Lex.left _ _ (by omega)
  · exact Prod.Lex.right _ (Nat.lt_succ_self _)

/-- The repository root of an interface: a tagged definition that declared parents lead to, the
interface itself included. -/
def repositoryRoot? (c : Catalog) (d : Definition) : Option Definition :=
  c.rootFrom (d.name :: c.keys.erase d.name) [d]

/-- The names of a type's declared interfaces. -/
def interfaceNames (d : Definition) : List String := d.descriptor.interfaces.map (·.name)

/-- Looks for a name on the stack: what is not the name makes way for the interfaces that it
declares, where the catalog knows it and it is not visited yet. -/
def reachesFrom (c : Catalog) (goal : String) (unvisited : List String) (stack : List String) :
    Bool :=
  match stack with
  | [] => false
  | name :: rest =>
    if name = goal then true
    else if _h : name ∈ unvisited then
      c.reachesFrom goal (unvisited.erase name)
        (((c.get? name).elim [] interfaceNames).reverse ++ rest)
    else c.reachesFrom goal unvisited rest
termination_by (unvisited.length, stack.length)
decreasing_by
  · have := List.length_erase_of_mem _h
    have := List.length_pos_of_mem _h
    exact Prod.Lex.left _ _ (by omega)
  · exact Prod.Lex.right _ (Nat.lt_succ_self _)

/-- Whether a type implements an interface, by itself or through the interfaces that its own
declare. -/
def implements (c : Catalog) (d : Definition) (interface : String) : Bool :=
  c.reachesFrom interface c.keys (interfaceNames d).reverse

/-- The concrete types that implement an interface, in order. -/
def implementations (c : Catalog) (interface : String) : List Definition :=
  c.concretes.filter (c.implements · interface)

end Catalog

/-- The implementation of each repository interface. -/
abbrev Bindings := OrderedMap String String

/-- A definition that has to be in the catalog. -/
def Catalog.require (c : Catalog) (name : String) : Except ContainerError Definition :=
  match c.get? name with
  | some d => .ok d
  | none => .error (.notRegistered name)

/-- The entity of a repository interface: the second of its type arguments, which has to be in the
catalog. -/
def Catalog.entityOf (c : Catalog) (interface : Definition) : Except ContainerError Definition :=
  match interface.descriptor.typeArguments with
  | _ :: entity :: _ =>
    match c.get? entity.name with
    | some d => .ok d
    | none => .error (.schema (.entityNotFound entity.name))
  | _ => .error (.creationFailed interface.name .noTypeArguments)

/-- Makes the proxy of a repository interface: a new instance of the implementation is bound to the
entity of the interface and put behind a proxy. -/
def Catalog.buildProxy (c : Catalog) (interface implementation : String) : Build Bean := do
  let i ← c.require interface
  let impl ← c.require implementation
  let entity ← c.entityOf i
  let metadata ← Build.metadata entity.descriptor
  let made ← impl.instantiate
  match impl.repositoryTarget.bind (· made) with
  | none => throw (.creationFailed implementation .notARepository)
  | some target =>
    modify fun s => { s with instances := s.instances.bind target metadata }
    match i.proxyFactory with
    | none => throw (.creationFailed interface .noProxyFactory)
    | some shownAs =>
      let id ← Build.make interface (.proxy shownAs target metadata)
      pure ⟨.interface shownAs, id⟩

/-- The bean of a bound interface: its proxy, made when it is first asked for. -/
def Catalog.resolveBound (c : Catalog) (interface implementation : String) : Build Bean :=
  Build.getOrCreate interface (c.buildProxy interface implementation)

end BeanKit

import BeanKit.Container.Wiring
/-!
# Starting a container

A container starts in three phases: the components are made, the interfaces are bound to what serves
them, and the components are wired. A started container answers look-ups; the proxy of a bound
interface is made at the first of them.
-/

namespace BeanKit

/-- Makes components in turn. -/
def makeComponents : List Definition → Build Unit
  | [] => pure ()
  | d :: rest => do
    let _ ← Build.getOrCreate d.name d.instantiate
    makeComponents rest

/-- The one implementation of the root of an interface. -/
def findImplementation (c : Catalog) (interface root : Definition) :
    Except ContainerError String :=
  match c.implementations root.name with
  | [d] => .ok d.name
  | [] => .error (.implementationNotFound interface.name)
  | ds => .error (.ambiguousImplementation interface.name (ds.map (·.name)))

/-- The first component that declares a cast to an interface. -/
def provider? (c : Catalog) (interface : String) : Option Definition :=
  c.components.find? (·.canCastTo interface)

/-- Registers an interface without a repository root: its bean is the cast of its provider's bean,
where the cast succeeds. -/
def registerByCapability (c : Catalog) (interface : String) : Build Unit := do
  match provider? c interface with
  | none => pure ()
  | some d =>
    match ((← get).registry.get? d.name).bind (d.castTo interface) with
    | none => pure ()
    | some b =>
      let _ ← Build.putIfAbsent interface b
      pure ()

/-- Binds interfaces in turn, on top of the bindings made so far. -/
def bindInterfaces (c : Catalog) : Bindings → List Definition → Build Bindings
  | bindings, [] => pure bindings
  | bindings, i :: rest => do
    match c.repositoryRoot? i with
    | some root =>
      let implementation ← findImplementation c i root
      bindInterfaces c (bindings.insert i.name implementation) rest
    | none =>
      registerByCapability c i.name
      bindInterfaces c bindings rest

/-- What a started container knows: its catalog, and the implementation of each repository
interface. -/
structure Context where
  catalog : Catalog
  bindings : Bindings

/-- Starts a container over a catalog. -/
def bootstrap (c : Catalog) : Build Context := do
  makeComponents c.components
  let bindings ← bindInterfaces c .empty c.interfaces
  let _ ← wireAll c bindings
  pure ⟨c, bindings⟩

namespace Context

/-- The bean under a name. -/
def bean (x : Context) (name : String) : Build Bean := do
  match x.bindings.get? name with
  | some implementation => x.catalog.resolveBound name implementation
  | none =>
    match (← get).registry.get? name with
    | some b => pure b
    | none => throw (.notRegistered name)

/-- The component of a type. -/
def component (x : Context) (type : String) : Build Bean := do
  let b ← x.bean type
  match b.expectComponent type with
  | .ok () => pure b
  | .error e => throw e

/-- The bean of an interface. -/
def interface (x : Context) (name : String) : Build Bean := do
  let b ← x.bean name
  match b.expectInterface name with
  | .ok () => pure b
  | .error e => throw e

/-- The injections that each component has received, in the order of the catalog. -/
def injected (x : Context) (s : Stage) : List (String × Option Bean × List (Nat × Bean)) :=
  x.catalog.components.map fun d =>
    match s.registry.get? d.name with
    | some b => (d.name, some b, s.instances.received b.object)
    | none => (d.name, none, [])

end Context
end BeanKit

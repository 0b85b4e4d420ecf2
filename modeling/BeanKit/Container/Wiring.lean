import BeanKit.Container.Binding
/-!
# Wiring

Every component in the order of the catalog, and every injection point of it in the order of
declaration, is given the bean of its parameter's type: the proxy of a bound interface, else what
the registry has under the name.
-/

namespace BeanKit

/-- The bean that an injection point of a component is given. -/
def resolveDependency (c : Catalog) (bindings : Bindings) (component dependency : String) :
    Build Bean := do
  match bindings.get? dependency with
  | some implementation => c.resolveBound dependency implementation
  | none =>
    match (← get).registry.get? dependency with
    | some b => pure b
    | none => throw (.unsatisfiedDependency component dependency)

/-- Serves one injection point of a component. -/
def wireMethod (c : Catalog) (bindings : Bindings) (d : Definition) (target : Bean) (m : Method) :
    Build Unit :=
  match m.parameters with
  | [dependency] =>
    match d.injector? m.name with
    | none => throw (.wiring d.name m.name .noInjector)
    | some injector => do
      let value ← resolveDependency c bindings d.name dependency.name
      injector.run target value
  | parameters => throw (.wiring d.name m.name (.parameterCount parameters.length))

/-- Serves injection points in turn, and counts them on from `count`. -/
def wireMethods (c : Catalog) (bindings : Bindings) (d : Definition) (target : Bean) :
    Nat → List Method → Build Nat
  | count, [] => pure count
  | count, m :: rest => do
    wireMethod c bindings d target m
    wireMethods c bindings d target (count + 1) rest

/-- Serves components in turn, and counts the injections on from `count`. -/
def wireComponents (c : Catalog) (bindings : Bindings) : Nat → List Definition → Build Nat
  | count, [] => pure count
  | count, d :: rest => do
    match (← get).registry.get? d.name with
    | none => throw (.notRegistered d.name)
    | some target =>
      let count ← wireMethods c bindings d target count d.descriptor.autowireMethods
      wireComponents c bindings count rest

/-- Serves every injection point of the catalog; the answer is how many there are. The first that
cannot be served ends the wiring. -/
def wireAll (c : Catalog) (bindings : Bindings) : Build Nat :=
  wireComponents c bindings 0 c.components

end BeanKit

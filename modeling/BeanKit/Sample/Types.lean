import BeanKit.Container.Catalog
/-!
# Definitions of the samples

The shapes of the types that the samples are made of: entities with a table, repository interfaces
over them, and services with setters for repositories.
-/

namespace BeanKit.Sample

/-- The definition of an entity: its table, and a column for each field. The first field is the
id. -/
def entity (name table : String) (columns : List (String × String)) : Definition :=
  { descriptor :=
      { type := .named name
        kind := .concrete
        tags := [.table table]
        fields := columns.zipIdx.map fun (c, i) =>
          { name := c.1, tags := .column c.2 :: if i = 0 then [.id] else [] } } }

/-- The name of an interface as a trait object. -/
def objectName (name : String) : String := "dyn " ++ name

/-- The definition of a repository interface over an entity. -/
def repository (name id entity : String) : Definition :=
  { descriptor :=
      { type := .named (objectName name)
        kind := .interface
        interfaces :=
          [.named
            ("dyn di_abstractions::repository::CrudRepository<" ++ id ++ ", " ++ entity ++ ">")]
        typeArguments := [.named id, .named entity] }
    proxyFactory := some name }

/-- A setter that takes the repository behind an interface. -/
def setter (service interface : String) (slot : Nat) : Injector :=
  { slot
    accept := fun target dependency => do
      target.expectComponent service
      dependency.expectInterface interface }

/-- The definition of a service with a setter for each repository, by method name and interface. -/
def service (name : String) (setters : List (String × String)) : Definition :=
  let bare : Definition :=
    { descriptor := { type := .named name, kind := .concrete, tags := [.component] }
      constructor := some (.ok (.service name)) }
  setters.zipIdx.foldl (fun d (s, slot) =>
    d.withInjector ⟨s.1, [.named (objectName s.2)], [.autowire]⟩ (setter name s.2 slot)) bare

/-- The repository that a service has in a slot: the first that it was given there. -/
def injected? (s : Instances) (b : Bean) (slot : Nat) : Option Proxy :=
  ((s.received b.object).find? (·.1 = slot)).bind fun i => s.proxy? i.2.object

/-- Asks the repository in a slot; an empty slot has none to ask. -/
def ask (repository : Option Proxy) (f : Proxy → Except Query.Error String) :
    Except Query.Error String :=
  match repository with
  | some p => f p
  | none => .error .unbound

end BeanKit.Sample

import BeanKit.Container.Bean
import BeanKit.Descriptor.Text
/-!
# Type definitions

A descriptor together with the hooks that bring the type to life. What a hook decides depends only
on the beans that it is given; the container carries the decision out.
-/

namespace BeanKit

/-- What a constructor makes: a component of the given type, or a repository that is not bound. -/
inductive Blueprint where
  | service (type : String)
  | repository
  deriving Repr, DecidableEq

/-- A setter: the slot that it fills, and whether it takes a dependency for a target. -/
structure Injector where
  slot : Nat
  accept : (target dependency : Bean) → Except ContainerError Unit

/-- A type's descriptor and hooks. A cast shows a bean behind an interface or declines; the
repository target names the repository behind a bean or declines; a proxy factory shows its proxies
behind the interface named. -/
structure Definition where
  descriptor : Descriptor
  constructor : Option (Except ContainerError Blueprint) := none
  casts : List (String × (Bean → Option Bean)) := []
  injectors : List (String × Injector) := []
  repositoryTarget : Option (Bean → Option ObjectId) := none
  proxyFactory : Option String := none

namespace Definition

/-- The type's identity. -/
def name (d : Definition) : String := d.descriptor.name

/-- Declares an interface together with the cast to it. -/
def implementing (d : Definition) (interface : TypeRef) (cast : Bean → Option Bean) : Definition :=
  { d with
    casts := d.casts ++ [(interface.name, cast)]
    descriptor := { d.descriptor with interfaces := d.descriptor.interfaces ++ [interface] } }

/-- Declares a method together with the setter that it is. -/
def withInjector (d : Definition) (m : Method) (i : Injector) : Definition :=
  { d with
    injectors := d.injectors ++ [(m.name, i)]
    descriptor := { d.descriptor with methods := d.descriptor.methods ++ [m] } }

/-- Whether there is a cast to an interface. -/
def canCastTo (d : Definition) (interface : String) : Bool := d.casts.any (·.1 = interface)

/-- What the constructor answers; a type without one cannot be made. -/
def blueprint (d : Definition) : Except ContainerError Blueprint :=
  d.constructor.getD (.error (.creationFailed d.name .noConstructor))

/-- Shows a bean behind an interface, by the first cast to it. -/
def castTo (d : Definition) (interface : String) (b : Bean) : Option Bean :=
  (d.casts.find? (·.1 = interface)).bind (·.2 b)

/-- The first setter under a method's name. -/
def injector? (d : Definition) (method : String) : Option Injector :=
  (d.injectors.find? (·.1 = method)).map (·.2)

/-- Whether the type is a component: concrete, and marked as one. -/
def isComponent (d : Definition) : Bool := !d.descriptor.isInterface && d.descriptor.isComponent

theorem not_isInterface_of_isComponent (d : Definition) (h : d.isComponent) :
    d.descriptor.isInterface = false := by
  simp only [isComponent, Bool.and_eq_true, Bool.not_eq_true'] at h
  exact h.1

/-- A definition in a diagnostic: its hooks show by their names, or by whether they are there. -/
def describe (d : Definition) : String :=
  Text.record "TypeDefinition"
    [("descriptor", d.descriptor.describe),
     ("constructor", Text.truth d.constructor.isSome),
     ("casts", Text.quotedList (d.casts.map (·.1))),
     ("injectors", Text.quotedList (d.injectors.map (·.1))),
     ("repository_target", Text.truth d.repositoryTarget.isSome),
     ("proxy_factory", Text.truth d.proxyFactory.isSome)]

end Definition

/-- The concrete type of repositories. -/
def repositoryType : String := "di_impl::crud::SqlCrudRepository"

namespace Blueprint

/-- What a new object is. -/
def nature : Blueprint → Nature
  | .service type => .service type
  | .repository => .repository {}

/-- The type that a new object is known by. -/
def type : Blueprint → String
  | .service type => type
  | .repository => repositoryType

end Blueprint
end BeanKit

import BeanKit.Container.Error
import BeanKit.Repository
/-!
# Beans and the objects behind them

Every run of a constructor or of a proxy factory makes a new object, and an object keeps its
identity for ever. A bean is a view of one object: either the object as what it is, or the object
behind one interface. Two beans are the same instance when they are equal. What setters have been
given is on record in the order in which it happened.
-/

namespace BeanKit

/-- The identity of an object: its number in the order of creation. -/
structure ObjectId where
  index : Nat
  deriving Repr, DecidableEq

/-- How a bean shows its object. -/
inductive Facet where
  | component (type : String)
  | interface (name : String)
  deriving Repr, DecidableEq

/-- A view of an object. -/
structure Bean where
  facet : Facet
  object : ObjectId
  deriving Repr, DecidableEq

/-- What an object is. -/
inductive Nature where
  | service (type : String)
  | repository (state : Repository)
  | proxy (interface : String) (target : ObjectId) (metadata : Metadata)
  deriving Repr, DecidableEq

/-- An object, and the definition that it was made from. -/
structure Object where
  origin : String
  nature : Nature
  deriving Repr, DecidableEq

/-- One call of a setter: the object that was called, which of its slots was filled, and with
what. -/
structure Injection where
  target : ObjectId
  slot : Nat
  dependency : Bean
  deriving Repr, DecidableEq

/-- All objects, by their numbers, and all injections, in order. -/
structure Instances where
  objects : List Object := []
  injections : List Injection := []
  deriving Repr, DecidableEq

namespace Bean

/-- Whether a bean shows an object of the given type as it is. -/
def isComponent (type : String) (b : Bean) : Bool := b.facet = .component type

/-- Whether a bean shows its object behind the given interface. -/
def isInterface (name : String) (b : Bean) : Bool := b.facet = .interface name

/-- Insists on an object of the given type. -/
def expectComponent (type : String) (b : Bean) : Except ContainerError Unit :=
  if b.isComponent type then .ok () else .error (.typeMismatch type)

/-- Insists on the given interface. -/
def expectInterface (name : String) (b : Bean) : Except ContainerError Unit :=
  if b.isInterface name then .ok () else .error (.typeMismatch name)

end Bean

namespace Instances

/-- An object by its identity. -/
def get? (s : Instances) (id : ObjectId) : Option Object := s.objects[id.index]?

/-- Adds an object. -/
def make (s : Instances) (o : Object) : ObjectId × Instances :=
  (⟨s.objects.length⟩, { s with objects := s.objects ++ [o] })

/-- The repository that an object is. -/
def repository? (s : Instances) (id : ObjectId) : Option Repository :=
  match s.get? id with
  | some ⟨_, .repository r⟩ => some r
  | _ => none

/-- The proxy that an object is, together with the state of the repository behind it. -/
def proxy? (s : Instances) (id : ObjectId) : Option Proxy :=
  match s.get? id with
  | some ⟨_, .proxy _ target m⟩ => (s.repository? target).map (⟨·, m⟩)
  | _ => none

/-- Binds a repository to metadata; objects of another kind stay as they are. -/
def bind (s : Instances) (id : ObjectId) (m : Metadata) : Instances :=
  { s with
    objects := s.objects.modify id.index fun o =>
      match o.nature with
      | .repository r => { o with nature := .repository (r.bind m) }
      | _ => o }

theorem length_bind (s : Instances) (id : ObjectId) (m : Metadata) :
    (s.bind id m).objects.length = s.objects.length := List.length_modify ..

/-- Records an injection. -/
def inject (s : Instances) (i : Injection) : Instances :=
  { s with injections := s.injections ++ [i] }

/-- What an object has been given, by slot, in order. -/
def received (s : Instances) (id : ObjectId) : List (Nat × Bean) :=
  (s.injections.filter (·.target = id)).map fun i => (i.slot, i.dependency)

end Instances
end BeanKit

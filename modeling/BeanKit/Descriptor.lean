import BeanKit.TypeRef
/-!
# Descriptors

What the container knows of a type without running any of its code: its kind, the tags on it and on
its fields and methods, the interfaces that it declares, and the type arguments of a repository
interface.
-/

namespace BeanKit

/-- Whether a type has instances of its own or is seen only through others. -/
inductive Kind where
  | concrete
  | interface
  deriving Repr, DecidableEq

/-- A mark on a declaration. Tags that the container does not know are kept and have no effect. -/
inductive Tag where
  | component
  | repository
  | autowire
  | table (name : String)
  | column (name : String)
  | id
  | other (name : String)
  deriving Repr, DecidableEq

/-- A field: its name and its tags. -/
structure Field where
  name : String
  tags : List Tag := []
  deriving Repr, DecidableEq

/-- A method: its name, the types of its parameters, and its tags. -/
structure Method where
  name : String
  parameters : List TypeRef := []
  tags : List Tag := []
  deriving Repr, DecidableEq

/-- A type's description. The interfaces are those that a concrete type implements, or the parents
of an interface; the type arguments are the id type and the entity type of a repository. -/
structure Descriptor where
  type : TypeRef
  kind : Kind
  tags : List Tag := []
  fields : List Field := []
  methods : List Method := []
  interfaces : List TypeRef := []
  typeArguments : List TypeRef := []
  deriving Repr, DecidableEq

namespace Tag

/-- The table that a tag names. -/
def table? : Tag → Option String
  | .table name => some name
  | _ => none

/-- The column that a tag names. -/
def column? : Tag → Option String
  | .column name => some name
  | _ => none

end Tag

namespace Field

/-- The column of a field: the first that its tags name. -/
def column? (f : Field) : Option String := f.tags.findSome? Tag.column?

/-- Whether a field is marked as the id. -/
def isId (f : Field) : Bool := f.tags.contains .id

end Field

namespace Method

/-- Whether a method takes a dependency at start-up. -/
def isAutowire (m : Method) : Bool := m.tags.contains .autowire

end Method

namespace Descriptor

/-- The type's identity. -/
def name (d : Descriptor) : String := d.type.name

/-- Whether the type is an interface. -/
def isInterface (d : Descriptor) : Bool := d.kind = .interface

/-- Whether the type is marked as a component. -/
def isComponent (d : Descriptor) : Bool := d.tags.contains .component

/-- Whether the type is marked as a repository root. -/
def isRepository (d : Descriptor) : Bool := d.tags.contains .repository

/-- The table of an entity: the first that its tags name. -/
def table? (d : Descriptor) : Option String := d.tags.findSome? Tag.table?

/-- Whether an interface is among those the type itself declares. -/
def declares (d : Descriptor) (interface : String) : Bool :=
  d.interfaces.any (·.name = interface)

/-- The methods that take a dependency at start-up, as declared. -/
def autowireMethods (d : Descriptor) : List Method := d.methods.filter Method.isAutowire

end Descriptor
end BeanKit

import BeanKit.Descriptor
import BeanKit.Text.Document
/-!
# The two texts of a descriptor

A descriptor is written as a document for tools, and as a record for diagnostics. Both have all
parts of it in the same order.
-/

namespace BeanKit

open BeanKit.Text

/-- The word for a kind. -/
def Kind.word : Kind → String
  | .concrete => "Concrete"
  | .interface => "Interface"

/-- The word for a tag, and the name that it carries. -/
def Tag.parts : Tag → String × Option String
  | .component => ("Component", none)
  | .repository => ("Repository", none)
  | .autowire => ("Autowire", none)
  | .table name => ("Table", some name)
  | .column name => ("Column", some name)
  | .id => ("Id", none)
  | .other name => ("Other", some name)

/-- A tag as a document: its word, or a table from its word to its name. -/
def Tag.document (t : Tag) : Document :=
  match t.parts with
  | (word, none) => .text word
  | (word, some name) => .table [(word, .text name)]

/-- A tag in a diagnostic. -/
def Tag.describe (t : Tag) : String :=
  match t.parts with
  | (word, none) => word
  | (word, some name) => word ++ "(" ++ quote name ++ ")"

/-- A type as a document. -/
def TypeRef.document (t : TypeRef) : Document :=
  .table [("name", .text t.name), ("full_name", .text t.fullName)]

/-- A type in a diagnostic. -/
def TypeRef.describe (t : TypeRef) : String :=
  record "TypeInfo" [("name", quote t.name), ("full_name", quote t.fullName)]

/-- A field as a document. -/
def Field.document (f : Field) : Document :=
  .table [("name", .text f.name), ("tags", .list (f.tags.map Tag.document))]

/-- A field in a diagnostic. -/
def Field.describe (f : Field) : String :=
  record "FieldDescriptor"
    [("name", quote f.name), ("tags", bracketed (f.tags.map Tag.describe))]

/-- A method as a document. -/
def Method.document (m : Method) : Document :=
  .table
    [("name", .text m.name),
     ("parameters", .list (m.parameters.map TypeRef.document)),
     ("tags", .list (m.tags.map Tag.document))]

/-- A method in a diagnostic. -/
def Method.describe (m : Method) : String :=
  record "MethodDescriptor"
    [("name", quote m.name),
     ("parameters", bracketed (m.parameters.map TypeRef.describe)),
     ("tags", bracketed (m.tags.map Tag.describe))]

namespace Descriptor

/-- A descriptor as a document. -/
def document (d : Descriptor) : Document :=
  .table
    [("info", d.type.document),
     ("kind", .text d.kind.word),
     ("tags", .list (d.tags.map Tag.document)),
     ("fields", .list (d.fields.map Field.document)),
     ("methods", .list (d.methods.map Method.document)),
     ("interfaces", .list (d.interfaces.map TypeRef.document)),
     ("type_arguments", .list (d.typeArguments.map TypeRef.document))]

/-- A descriptor in a diagnostic. -/
def describe (d : Descriptor) : String :=
  record "TypeDescriptor"
    [("info", d.type.describe),
     ("kind", d.kind.word),
     ("tags", bracketed (d.tags.map Tag.describe)),
     ("fields", bracketed (d.fields.map Field.describe)),
     ("methods", bracketed (d.methods.map Method.describe)),
     ("interfaces", bracketed (d.interfaces.map TypeRef.describe)),
     ("type_arguments", bracketed (d.typeArguments.map TypeRef.describe))]

end Descriptor
end BeanKit

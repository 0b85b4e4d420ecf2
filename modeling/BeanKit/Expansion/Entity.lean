import BeanKit.Descriptor
import BeanKit.Expansion.Arguments
import BeanKit.Expansion.Registration
/-!
# Entities

The expansion of a data type that is derived as an entity: a descriptor with the table and one entry
for each field, and the list of the values that a repository saves, one for each field that has a
column. An entity without a table is expanded all the same; its descriptor has no metadata.
-/

namespace BeanKit.Expansion

open BeanKit.Declaration

/-! ## Names given by attributes -/

/-- Reads the text that an argument is set to. -/
def readText : Parse String := do
  takeMark '='
  match ← get with
  | ⟨.literal written, _⟩ :: rest =>
    match stringValue? written with
    | some s =>
      set rest
      return s
    | none => missing ["string literal"]
  | _ => missing ["string literal"]

/-- Reads an argument of an attribute that takes a name only; the last name counts. -/
def readNameArgument (path : String) (_ : Option String) (name : List String) :
    ArgumentReader (Option String) := do
  if name = ["name"] then return some (← reading readText) else throw (.unknownNameKey path)

/-- The name that the first attribute of the given path declares: nothing where there is no such
attribute, and no name where the attribute has none. -/
def nameOf (path : String) (attributes : List Attribute) :
    Except ExpansionError (Option (Option String)) :=
  match attributes.find? (·.isNamed path) with
  | none => .ok none
  | some a => (Arguments.fold (readNameArgument path) none a).map some

/-! ## The expansion -/

/-- A field of an entity: its name, its column, and whether it is the id. -/
structure EntityField where
  name : String
  column : Option String
  isId : Bool
  deriving Repr, DecidableEq

/-- What an entity expands to: its fields as the descriptor has them, and the fields whose values
are saved. -/
structure EntityExpansion where
  name : String
  table : Option String
  fields : List EntityField
  values : List String
  registration : String
  deriving Repr, DecidableEq

namespace EntityField

/-- A declared field. A column without a name is named like the field. -/
def ofDecl (f : FieldDecl) : Except ExpansionError EntityField :=
  (nameOf "column" f.attributes).map fun column =>
    { name := f.name
      column := column.map (·.getD f.name)
      isId := f.attributes.any (·.isNamed "id") }

/-- The field of the descriptor. -/
def field (f : EntityField) : Field :=
  ⟨f.name, (f.column.map Tag.column).toList ++ if f.isId then [.id] else []⟩

/-- The call that adds the field to the descriptor. -/
def tokens (f : EntityField) : List Token :=
  tokensOf ".with_field" ++
    parens (tokensOf "::infrastructure_common::FieldDescriptor::new" ++
      parens [.ofString f.name] ++
      (match f.column with
        | some column => tokensOf ".column" ++ parens [.ofString column]
        | none => []) ++
      if f.isId then tokensOf ".id()" else [])

end EntityField

namespace EntityExpansion

/-- The expansion of a data type. The generic parameters are looked at first, then the body, the
table, and the fields in their order. -/
def ofDecl (d : DataDecl) : Except ExpansionError EntityExpansion :=
  if !d.generics.isEmpty then .error .genericEntity
  else
    match d.body with
    | .enumeration | .union => .error .entityOfOtherKind
    | .tuple | .unit => .error .entityWithoutNamedFields
    | .named declared => do
      let table ←
        match ← nameOf "table" d.attributes with
        | some none => .error .unnamedTable
        | some (some name) => .ok (some name)
        | none => .ok none
      let fields ← declared.mapM EntityField.ofDecl
      let registration ← Registered.entity.function d.name
      return { name := d.name
               table
               fields
               values := (fields.filter (·.column.isSome)).map (·.name)
               registration }

/-- The descriptor that the expansion builds, for the type under its full name. -/
def descriptor (e : EntityExpansion) (type : TypeRef) : Descriptor :=
  { type
    kind := .concrete
    tags := (e.table.map Tag.table).toList
    fields := e.fields.map EntityField.field }

/-- The entry of the value list for a field. -/
def valueTokens (field : String) : List Token :=
  parens (.ofString field :: .mark ',' :: tokensOf "::infrastructure_common::Value::from" ++
    parens (tokensOf "::std::clone::Clone::clone" ++
      parens (tokensOf "&self." ++ [.word field])))

/-- The generated code. -/
def tokens (e : EntityExpansion) : List Token :=
  let self := [.word e.name]
  let table := e.table.map fun table =>
    tokensOf ".with_tag" ++ parens (tokensOf "::infrastructure_common::Tag::Table" ++
      parens (.ofString table :: tokensOf ".to_string()"))
  let values := tokensOf "::std::vec!" ++ brackets (commaSeparated (e.values.map valueTokens))
  registrable self (newDefinition (newDescriptor "concrete" [.word "Self"] ++ table.getD [] ++
      e.fields.flatMap EntityField.tokens)) ++
    tokensOf "impl ::di_abstractions::Entity for" ++ self ++
      braces (tokensOf ("fn field_values(&self) -> " ++
        "::std::vec::Vec<(&\x27static str, ::infrastructure_common::Value)>") ++ braces values) ++
    registering e.registration self

end EntityExpansion
end BeanKit.Expansion

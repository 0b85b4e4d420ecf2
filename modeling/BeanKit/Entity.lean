import BeanKit.Descriptor
import BeanKit.OrderedMap
import BeanKit.Text.Quoted
/-!
# Entity metadata

How an entity lies in the database: its table, the columns of its fields, and its one id field.
`Metadata.resolve` reads it off a descriptor and says what is wrong with one that has no such
reading. A cache keeps the first successful reading for each entity.
-/

namespace BeanKit

open BeanKit.Text

/-- Columns by field, in the order in which the fields are declared. -/
abbrev FieldMap := OrderedMap String String

/-- What is wrong with an entity's descriptor. -/
inductive SchemaError where
  | missingTable (entity : String)
  | missingId (entity : String)
  | multipleIds (entity : String) (fields : List String)
  | emptyColumn (entity field : String)
  | entityNotFound (entity : String)
  deriving Repr, DecidableEq

/-- The wording of a schema error. -/
def SchemaError.message : SchemaError → String
  | .missingTable e => "无法解析表名: 实体 " ++ e ++ " 缺少 Table 标记"
  | .missingId e => "实体 " ++ e ++ " 没有 Id 字段"
  | .multipleIds e fields => "实体 " ++ e ++ " 存在多个 Id 字段: " ++ quotedList fields
  | .emptyColumn e field => "实体 " ++ e ++ " 的字段 " ++ field ++ " 列名为空"
  | .entityNotFound e => "实体类型未被扫描: " ++ e

/-- How an entity lies in the database. `fieldOfColumn` has the last field of each column. -/
structure Metadata where
  entity : TypeRef
  table : String
  idField : String
  columnOfField : FieldMap
  fieldOfColumn : OrderedMap String String
  deriving Repr, DecidableEq

namespace Metadata

/-- The fields that have a column, with their columns, as declared. -/
def mappedFields (fields : List Field) : List (Field × String) :=
  fields.filterMap fun f => f.column?.map fun c => (f, c)

/-- Reads the metadata of an entity off its descriptor. The table is looked at first, then the
columns in the order of the fields, then the number of ids. -/
def resolve (d : Descriptor) : Except SchemaError Metadata :=
  let mapped := mappedFields d.fields
  let ids := (mapped.filter (·.1.isId)).map (·.1.name)
  match d.table? with
  | none => .error (.missingTable d.name)
  | some table =>
    if isBlankText table then .error (.missingTable d.name)
    else
      match mapped.find? (isBlankText ·.2) with
      | some (f, _) => .error (.emptyColumn d.name f.name)
      | none =>
        match ids with
        | [] => .error (.missingId d.name)
        | [id] =>
          .ok { entity := d.type
                table := table
                idField := id
                columnOfField := .ofList (mapped.map fun m => (m.1.name, m.2))
                fieldOfColumn := .ofList (mapped.map fun m => (m.2, m.1.name)) }
        | _ => .error (.multipleIds d.name ids)

/-- The column of a field. -/
def column? (m : Metadata) (field : String) : Option String := m.columnOfField.get? field

/-- The field of a column. -/
def field? (m : Metadata) (column : String) : Option String := m.fieldOfColumn.get? column

/-- The column of the id field; a field without one stands for itself. -/
def idColumn (m : Metadata) : String := (m.column? m.idField).getD m.idField

end Metadata

/-- Metadata as a cache hands them out. All that is handed out under one number is one object. -/
structure SharedMetadata where
  number : Nat
  metadata : Metadata
  deriving Repr, DecidableEq

/-- The metadata of the entities resolved so far, by entity, and how many objects have been made for
them. An entry never changes. -/
structure MetadataCache where
  entries : OrderedMap String SharedMetadata := .empty
  made : Nat := 0
  deriving Repr, DecidableEq

namespace MetadataCache

/-- The cache in which nothing has been resolved. -/
def empty : MetadataCache := {}

/-- How many entities there are. -/
def size (cache : MetadataCache) : Nat := cache.entries.size

/-- Whether there is no entity. -/
def isEmpty (cache : MetadataCache) : Bool := cache.entries.isEmpty

/-- The object that an entity has. -/
def shared? (cache : MetadataCache) (name : String) : Option SharedMetadata :=
  cache.entries.get? name

/-- The metadata that an entity has. -/
def get? (cache : MetadataCache) (name : String) : Option Metadata :=
  (cache.shared? name).map (·.metadata)

/-- The next object that the cache makes. -/
def next (cache : MetadataCache) (m : Metadata) : SharedMetadata := ⟨cache.made, m⟩

/-- Makes the next object, and keeps it where the entity has none. -/
def keep (cache : MetadataCache) (name : String) (m : Metadata) : MetadataCache :=
  { entries := cache.entries.insertIfAbsent name (cache.next m), made := cache.made + 1 }

/-- Looks an entity up, and resolves and keeps its metadata where the cache has none. A failure
leaves the cache as it is. -/
def resolve (cache : MetadataCache) (d : Descriptor) :
    Except SchemaError SharedMetadata × MetadataCache :=
  match cache.shared? d.name with
  | some shared => (.ok shared, cache)
  | none =>
    match Metadata.resolve d with
    | .ok m => (.ok (cache.next m), cache.keep d.name m)
    | .error e => (.error e, cache)

/-- The metadata that a descriptor is answered with, whichever object they are. -/
def metadata (cache : MetadataCache) (d : Descriptor) : Except SchemaError Metadata :=
  (cache.resolve d).1.map (·.metadata)

/-- A descriptor is answered with the object that the cache has, with a new one for what it is read as,
which the cache then has, or with what is wrong with it. -/
theorem resolve_cases (cache : MetadataCache) (d : Descriptor) :
    (∃ shared, cache.shared? d.name = some shared ∧ cache.resolve d = (.ok shared, cache)) ∨
    (∃ m, cache.shared? d.name = none ∧ Metadata.resolve d = .ok m ∧
      cache.resolve d = (.ok (cache.next m), cache.keep d.name m)) ∨
    ∃ e, cache.shared? d.name = none ∧ Metadata.resolve d = .error e ∧
      cache.resolve d = (.error e, cache) := by
  unfold resolve
  cases hget : cache.shared? d.name with
  | some shared => exact .inl ⟨shared, rfl, rfl⟩
  | none =>
    cases hm : Metadata.resolve d with
    | ok m => exact .inr (.inl ⟨m, rfl, rfl, rfl⟩)
    | error e => exact .inr (.inr ⟨e, rfl, rfl, rfl⟩)

theorem shared?_keep (cache : MetadataCache) (name name' : String) (m : Metadata) :
    (cache.keep name m).shared? name' =
      (cache.shared? name').or (if name' = name then some (cache.next m) else none) :=
  OrderedMap.get?_insertIfAbsent ..

theorem get?_keep (cache : MetadataCache) (name name' : String) (m : Metadata) :
    (cache.keep name m).get? name' =
      (cache.get? name').or (if name' = name then some m else none) := by
  rw [get?, shared?_keep, Option.map_or]
  split <;> rfl

end MetadataCache

end BeanKit

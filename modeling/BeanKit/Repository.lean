import BeanKit.Query.Parser
import BeanKit.Query.Statement
/-!
# Repositories

A repository answers every call with the statement that the call stands for. It takes the metadata
of its entity once, when it is bound; until then every statement is refused. A proxy stands in front
of a repository and tells derived queries from the other calls by their names.
-/

namespace BeanKit

open BeanKit.Query

/-- A repository: the metadata that it is bound to. -/
structure Repository where
  metadata : Option Metadata := none
  deriving Repr, DecidableEq

namespace Repository

/-- Binds a repository; one that is bound stays as it is. -/
def bind (r : Repository) (m : Metadata) : Repository := ⟨some (r.metadata.getD m)⟩

/-- Answers from the metadata, where there is any. -/
def withMetadata {α : Type} (r : Repository) (f : Metadata → Except Error α) : Except Error α :=
  match r.metadata with
  | some m => f m
  | none => .error .unbound

theorem withMetadata_of_bound {α : Type} {r : Repository} {m : Metadata} (h : r.metadata = some m)
    (f : Metadata → Except Error α) : r.withMetadata f = f m := by
  rw [withMetadata, h]

/-- The columns of some fields with the texts of their values; fields without a column are left
out. -/
def rowOf (m : Metadata) (values : List (String × Value)) : List (String × String × String) :=
  values.filterMap fun e => (m.column? e.1).map fun c => (e.1, c, e.2.render)

/-- The text of the id: that of the last entry for the id field, nothing without one. -/
def idText (m : Metadata) (row : List (String × String × String)) : String :=
  ((row.filter (·.1 = m.idField)).getLast?.map (·.2.2)).getD ""

/-- The statement that saves a row: an update of the row with its id, or an insertion where the id
has no text. -/
def saveText (m : Metadata) (values : List (String × Value)) : Except Error String :=
  let row := rowOf m values
  let columns : ColumnValues := .ofList (row.map (·.2))
  let id := idText m row
  if id.isEmpty then buildInsert m.table columns
  else (buildUpdate m.table columns).map (· ++ filterById m.idColumn id)

/-- The statement that saves a row, given as the values of its fields. -/
def save (r : Repository) (values : List (String × Value)) : Except Error String :=
  r.withMetadata fun m => saveText m values

/-- The statement that reads the row with an id. -/
def getOne (r : Repository) (id : Value) : Except Error String :=
  r.withMetadata fun m => .ok (selectText m.table (filterById m.idColumn id.render))

/-- The statement that deletes the row with an id. -/
def delete (r : Repository) (id : Value) : Except Error String :=
  r.withMetadata fun m => .ok (deleteText m.table (filterById m.idColumn id.render))

/-- The statement that reads every row. -/
def listAll (r : Repository) : Except Error String :=
  r.withMetadata fun m => .ok (selectText m.table "")

/-- The statement of a derived query. -/
def find (r : Repository) (method : String) (args : List Value) : Except Error String :=
  r.withMetadata fun m =>
    (compile m.columnOfField method args).map fun p => selectText m.table (" WHERE" ++ p)

/-- Passes the id on, which is the first argument. -/
def withId {α : Type} (method : String) (args : List Value) (f : Value → Except Error α) :
    Except Error α :=
  match args with
  | id :: _ => f id
  | [] => .error (.invalidArgument (.noId method))

/-- A call by name. A missing id is noticed before missing metadata. -/
def invoke (r : Repository) (method : String) (args : List Value) : Except Error String :=
  if method = "getOne" then withId method args r.getOne
  else if method = "delete" then withId method args r.delete
  else if method = "listAll" then r.listAll
  else .error (.unknownMethod method)

end Repository

/-- A proxy in front of a repository, with the metadata that it was made for. -/
structure Proxy where
  target : Repository
  metadata : Metadata
  deriving Repr, DecidableEq

namespace Proxy

/-- A call by name: names that start like a query are derived queries, all others go to the
repository as they are. -/
def invoke (p : Proxy) (method : String) (args : List Value) : Except Error String :=
  if Text.startsWith findBy.toList method.toList then p.target.find method args
  else p.target.invoke method args

/-- Saves a row. -/
def save (p : Proxy) (values : List (String × Value)) : Except Error String := p.target.save values

/-- Reads the row with an id. -/
def getOne (p : Proxy) (id : Value) : Except Error String := p.invoke "getOne" [id]

/-- Deletes the row with an id. -/
def delete (p : Proxy) (id : Value) : Except Error String := p.invoke "delete" [id]

/-- Reads every row. -/
def listAll (p : Proxy) : Except Error String := p.invoke "listAll" []

/-- A proxy in a diagnostic. -/
def describe (p : Proxy) : String :=
  Text.record "RepositoryProxy"
    [("entity", Text.quote p.metadata.entity.name), ("table", Text.quote p.metadata.table)]

end Proxy
end BeanKit

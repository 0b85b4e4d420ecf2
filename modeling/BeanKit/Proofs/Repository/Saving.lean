import BeanKit.Proofs.Query.Statements
import BeanKit.Proofs.Repository.Mapping
import BeanKit.Repository
/-! # What saving writes

A row is saved from the values of its fields, in any order and with repetitions. Its columns stand
where their first values stand and have the texts of their last ones. Whether the row is new is told by
the last value for the id: with a text it filters an update, and without one the row is inserted, so
that no update is ever without its filter. -/

namespace BeanKit

open BeanKit.Query Repository

variable {d : Descriptor} {m : Metadata}

namespace Metadata

/-! ## The row of some values -/

/-- The text of the last value for the id field. -/
def idText? (m : Metadata) (values : List (String × Value)) : Option String :=
  (values.filter (·.1 = m.idField)).getLast?.map (·.2.render)

/-- The columns of some values with their texts. -/
def columnsOf (m : Metadata) (values : List (String × Value)) : ColumnValues :=
  .ofList ((rowOf m values).map (·.2))

variable (m) (values : List (String × Value))

/-- A column stands where the first value for it stands. -/
theorem keys_columnsOf :
    (m.columnsOf values).keys = (values.filterMap fun e => m.column? e.1).eraseDups := by
  rw [columnsOf, OrderedMap.keys_ofList]
  simp [rowOf, List.map_filterMap, Function.comp_def]

theorem filter_rowOf (column : String) :
    ((rowOf m values).map (·.2)).filter (·.1 = column) =
      (values.filter fun e => m.column? e.1 = some column).map fun e => (column, e.2.render) := by
  induction values with
  | nil => rfl
  | cons e values ih =>
    cases hc : m.column? e.1 with
    | none => simpa [rowOf, hc] using ih
    | some c =>
      by_cases h : c = column
      · simpa [rowOf, hc, h] using ih
      · simpa [rowOf, hc, h] using ih

/-- A column has the text of the last value for it. -/
theorem get?_columnsOf (column : String) : (m.columnsOf values).get? column =
    (values.filter fun e => m.column? e.1 = some column).getLast?.map (·.2.render) := by
  rw [columnsOf, OrderedMap.get?_ofList, filter_rowOf, List.getLast?_map, Option.map_map]
  rfl

variable {m values}

theorem mem_keys_columnsOf {e : String × Value} {column : String} (he : e ∈ values)
    (hc : m.column? e.1 = some column) : column ∈ (m.columnsOf values).keys := by
  rw [keys_columnsOf, List.mem_eraseDups]
  exact List.mem_filterMap.2 ⟨e, he, hc⟩

theorem isEmpty_columnsOf (h : ∀ e ∈ values, m.column? e.1 = none) :
    (m.columnsOf values).isEmpty := by
  have hkeys : (m.columnsOf values).keys = [] := by
    rw [keys_columnsOf, List.filterMap_eq_nil_iff.2 h, List.eraseDups_nil]
  rw [OrderedMap.isEmpty, List.isEmpty_iff]
  exact List.map_eq_nil_iff.1 hkeys

/-- The values for the id field are all in the row, as the id field has a column. -/
theorem idText_rowOf (hid : m.column? m.idField = some m.idColumn)
    (values : List (String × Value)) : idText m (rowOf m values) = (m.idText? values).getD "" := by
  have hids : (rowOf m values).filter (·.1 = m.idField) =
      (values.filter (·.1 = m.idField)).map fun e => (e.1, m.idColumn, e.2.render) := by
    induction values with
    | nil => rfl
    | cons e values ih =>
      by_cases h : e.1 = m.idField
      · simpa [rowOf, h, hid] using ih
      · cases hc : m.column? e.1 with
        | none => simpa [rowOf, hc, h] using ih
        | some c => simpa [rowOf, hc, h] using ih
  simp [idText, idText?, hids, List.getLast?_map, Function.comp_def]

theorem exists_of_idText? {id : String} (h : m.idText? values = some id) :
    ∃ e ∈ values, e.1 = m.idField := by
  obtain ⟨e, he, -⟩ := Option.map_eq_some_iff.1 h
  have hmem := List.mem_of_getLast? he
  rw [List.mem_filter, decide_eq_true_eq] at hmem
  exact ⟨e, hmem⟩

/-- Where no two fields share a column, the values for the column of the id are those for the id
field. -/
theorem get?_columnsOf_idColumn (hid : m.column? m.idField = some m.idColumn)
    (hn : m.columnOfField.values.Nodup) :
    (m.columnsOf values).get? m.idColumn = m.idText? values := by
  -- Otherwise a value for another field could be the last one for the column.
  have hfield (field : String) : m.column? field = some m.idColumn ↔ field = m.idField := by
    constructor
    · intro hc
      exact OrderedMap.eq_of_nodup_values hn hc hid
    · rintro rfl
      exact hid
  simp only [get?_columnsOf, idText?, hfield]

/-! ## The statement -/

/-- `columns` are those of the values, and `answer` is what saving the values comes to. -/
structure Saves (m : Metadata) (values : List (String × Value)) (columns : ColumnValues)
    (answer : Except Error String) : Prop where
  keys : columns.keys = (values.filterMap fun e => m.column? e.1).eraseDups
  texts : ∀ column, columns.get? column =
    (values.filter fun e => m.column? e.1 = some column).getLast?.map (·.2.render)
  /-- Values without columns are refused. -/
  refused : (∀ e ∈ values, m.column? e.1 = none) →
    answer = .error (.invalidArgument (.noColumns m.table))
  /-- A row whose id has a text is updated, under the filter on that id. -/
  updated : ∀ id, m.idText? values = some id → id ≠ "" → ∃ update,
    buildUpdate m.table columns = .ok update ∧
      answer = .ok (update ++ (" WHERE " ++ m.idColumn ++ " = '" ++ id ++ "'"))
  /-- Every other row is inserted. -/
  inserted : (∃ e ∈ values, m.column? e.1 ≠ none) → (m.idText? values).getD "" = "" →
    ∃ insert, buildInsert m.table columns = .ok insert ∧ answer = .ok insert
  /-- Where no two fields share a column, an update leaves the id as the filter has it. -/
  agrees : m.columnOfField.values.Nodup → ∀ id, m.idText? values = some id → id ≠ "" →
    columns.get? m.idColumn = some id

variable (hm : m.Reads d)
include hm

theorem saveText_of_resolve (values : List (String × Value)) :
    saveText m values =
      if (m.idText? values).getD "" = "" then buildInsert m.table (m.columnsOf values)
      else (buildUpdate m.table (m.columnsOf values)).map
        (· ++ filterById m.idColumn ((m.idText? values).getD "")) := by
  simp only [saveText, idText_rowOf hm.column?_idField, String.isEmpty_iff]
  rfl

theorem writable_columnsOf {e : String × Value} (he : e ∈ values) (hc : m.column? e.1 ≠ none) :
    Writable m.table (m.columnsOf values) where
  tableNamed := by simpa [Text.isBlankText] using hm.tableNamed
  hasColumns := by
    obtain ⟨column, hcolumn⟩ := Option.ne_none_iff_exists'.1 hc
    obtain ⟨e, he, -⟩ := List.mem_map.1 (mem_keys_columnsOf he hcolumn)
    exact List.ne_nil_of_mem he

theorem saveText_of_no_column (h : ∀ e ∈ values, m.column? e.1 = none) :
    saveText m values = .error (.invalidArgument (.noColumns m.table)) := by
  -- The id field has a column, so that there is no value for it either.
  have hnone : m.idText? values = none := by
    by_contra hsome
    obtain ⟨id, hid⟩ := Option.ne_none_iff_exists'.1 hsome
    obtain ⟨e, he, hfield⟩ := exists_of_idText? hid
    have hcolumn := hm.column?_idField
    rw [← hfield, h e he] at hcolumn
    cases hcolumn
  rw [saveText_of_resolve hm, hnone, Option.getD_none, if_pos rfl]
  simp [buildInsert, checkRow, hm.tableNamed, isEmpty_columnsOf h, Except.map]

theorem saveText_of_id {id : String} (h : m.idText? values = some id) (hne : id ≠ "") :
    ∃ update, buildUpdate m.table (m.columnsOf values) = .ok update ∧
      saveText m values = .ok (update ++ (" WHERE " ++ m.idColumn ++ " = '" ++ id ++ "'")) := by
  obtain ⟨e, he, hfield⟩ := exists_of_idText? h
  have hrow := writable_columnsOf hm he (by simp [hfield, hm.column?_idField])
  have hbuild := buildUpdate_eq_ok_iff.2 ⟨hrow, rfl⟩
  refine ⟨_, hbuild, ?_⟩
  rw [saveText_of_resolve hm, h, Option.getD_some, if_neg hne, hbuild]
  have hquote : " = '" = " = " ++ "'" := rfl
  simp only [Except.map, filterById, quoted, hquote, String.append_assoc]

theorem saveText_of_no_id {e : String × Value} (he : e ∈ values) (hc : m.column? e.1 ≠ none)
    (h : (m.idText? values).getD "" = "") :
    ∃ insert, buildInsert m.table (m.columnsOf values) = .ok insert ∧
      saveText m values = .ok insert := by
  have hbuild := buildInsert_eq_ok_iff.2 ⟨writable_columnsOf hm he hc, rfl⟩
  refine ⟨_, hbuild, ?_⟩
  rw [saveText_of_resolve hm, if_pos h, hbuild]

end Metadata

/-- A repository that is bound to the metadata of an entity saves every list of values as one row of
that entity's table: it inserts the row, or updates the row with the id that the values give. -/
theorem Repository.save_writes_one_row {d : Descriptor} {m : Metadata} {r : Repository}
    (hm : Metadata.resolve d = .ok m) (hr : r.metadata = some m) (values : List (String × Value)) :
    ∃ columns, m.Saves values columns (r.save values) := by
  have hreads := Metadata.reads_of_resolve hm
  have hsave : r.save values = saveText m values := withMetadata_of_bound hr _
  refine ⟨m.columnsOf values, ?_⟩
  rw [hsave]
  exact
    { keys := m.keys_columnsOf values
      texts := m.get?_columnsOf values
      refused := Metadata.saveText_of_no_column hreads
      updated := fun _ hid hne => Metadata.saveText_of_id hreads hid hne
      inserted := fun ⟨_, he, hc⟩ hid => Metadata.saveText_of_no_id hreads he hc hid
      agrees := fun hn id hid _ => by
        rw [Metadata.get?_columnsOf_idColumn hreads.column?_idField hn, hid] }

/-- A product whose id field has the column `ID`, and its name the column `NAME`. -/
def productDescriptor : Descriptor where
  type := { name := "Product", fullName := "shop::Product" }
  kind := .concrete
  tags := [.table "products"]
  fields := [{ name := "id", tags := [.column "ID", .id] },
    { name := "name", tags := [.column "NAME"] }, { name := "stock" }]

def productMetadata : Metadata where
  entity := productDescriptor.type
  table := "products"
  idField := "id"
  columnOfField := .ofList [("id", "ID"), ("name", "NAME")]
  fieldOfColumn := .ofList [("ID", "id"), ("NAME", "name")]

/-- Values with a second id, a second name and a field without a column. -/
def repeatedValues : List (String × Value) :=
  [("name", .text "a"), ("id", .int 1), ("stock", .int 3), ("id", .int 7), ("name", .text "b")]

theorem Repository.save_writes_one_row_repeated :
    Metadata.resolve productDescriptor = .ok productMetadata ∧
      Repository.save ⟨some productMetadata⟩ repeatedValues =
        .ok "UPDATE products SET NAME = 'b', ID = '7' WHERE ID = '7'" ∧
      ∃ columns, productMetadata.Saves repeatedValues columns
        (Repository.save ⟨some productMetadata⟩ repeatedValues) :=
  ⟨by rfl, by rfl, Repository.save_writes_one_row (d := productDescriptor) (by rfl) rfl _⟩

end BeanKit

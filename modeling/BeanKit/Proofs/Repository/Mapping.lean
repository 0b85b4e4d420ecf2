import BeanKit.Entity
import Mathlib
/-! # What the metadata of an entity say

The metadata of an entity are read off its descriptor. They are there exactly when the descriptor has a
table, no blank column and one id, and then they say what the descriptor says. -/

namespace BeanKit

open BeanKit.Text

/-! ## Maps written in turn -/

namespace OrderedMap

variable {α β : Type} [DecidableEq α]

theorem ofList_concat (pairs : List (α × β)) (p : α × β) :
    ofList (pairs ++ [p]) = (ofList pairs).insert p.1 p.2 := List.foldl_append

theorem get?_insert (m : OrderedMap α β) (k k' : α) (v : β) :
    (m.insert k v).get? k' = if k' = k then some v else m.get? k' := by
  by_cases h : k' = k
  · rw [if_pos h, h, get?_insert_self]
  · rw [if_neg h, get?_insert_of_ne _ _ h]

/-- A key has its place from where it was first written. -/
theorem keys_ofList (pairs : List (α × β)) : (ofList pairs).keys = (pairs.map (·.1)).eraseDups := by
  induction pairs using List.reverseRecOn with
  | nil => rfl
  | append_singleton pairs p ih =>
    rw [ofList_concat, keys_insert, ih, List.map_append, List.eraseDups_append]
    by_cases hp : p.1 ∈ pairs.map (·.1)
    · simp [hp, List.removeAll]
    · simp [hp, List.removeAll, List.eraseDups_cons]

theorem find?_keys_ofList (p : α → Bool) (pairs : List (α × β)) :
    (ofList pairs).keys.find? p = (pairs.map (·.1)).find? p := by
  induction pairs using List.reverseRecOn with
  | nil => rfl
  | append_singleton pairs e ih =>
    rw [ofList_concat, keys_insert, List.map_append, List.find?_append, ← ih]
    split
    · rename_i he
      cases hfind : (ofList pairs).keys.find? p with
      | some k => rfl
      | none =>
        have hp := List.find?_eq_none.1 hfind e.1 he
        simp [hp]
    · rw [List.find?_append]
      rfl

/-- Pairs with distinct keys are the entries that they give. -/
theorem entries_ofList_of_nodup {pairs : List (α × β)} (h : (pairs.map (·.1)).Nodup) :
    (ofList pairs).entries = pairs := by
  induction pairs using List.reverseRecOn with
  | nil => rfl
  | append_singleton pairs p ih =>
    rw [List.map_append, List.nodup_append] at h
    have hp : p.1 ∉ (ofList pairs).keys := by
      rw [keys_ofList, List.mem_eraseDups]
      exact fun hm => h.2.2 _ hm _ (List.mem_singleton_self _) rfl
    rw [ofList_concat, entries_insert_of_not_mem _ hp, ih h.1]

/-- A key has the value that it was last written with. -/
theorem get?_ofList (pairs : List (α × β)) (k : α) :
    (ofList pairs).get? k = (pairs.filter (·.1 = k)).getLast?.map (·.2) := by
  -- The induction is on the end of the list, where the last write stands.
  induction pairs using List.reverseRecOn with
  | nil => rfl
  | append_singleton pairs p ih =>
    rw [ofList_concat, get?_insert, ih]
    by_cases hp : p.1 = k
    · simp [hp]
    · simp [hp, Ne.symm hp]

theorem eq_of_nodup_values {m : OrderedMap α β} {k k' : α} {v : β} (h : m.values.Nodup)
    (hk : m.get? k = some v) (hk' : m.get? k' = some v) : k = k' := by
  rw [get?_eq_some_iff] at hk hk'
  exact congrArg Prod.fst (List.inj_on_of_nodup_map h hk hk' rfl)

end OrderedMap

/-! ## Metadata that have been resolved -/

namespace Metadata

variable {d : Descriptor} {m : Metadata}

/-- `m` says what `d` says, which leaves nothing out. -/
structure Reads (m : Metadata) (d : Descriptor) : Prop where
  entity : m.entity = d.type
  table : d.table? = some m.table
  tableNamed : isBlankText m.table = false
  columnsNamed : ∀ e ∈ mappedFields d.fields, isBlankText e.2 = false
  id : ((mappedFields d.fields).filter (·.1.isId)).map (·.1.name) = [m.idField]
  columnOfField : m.columnOfField = .ofList ((mappedFields d.fields).map fun e => (e.1.name, e.2))
  fieldOfColumn : m.fieldOfColumn = .ofList ((mappedFields d.fields).map fun e => (e.2, e.1.name))

theorem reads_of_resolve (h : resolve d = .ok m) : m.Reads d := by
  -- The checks are taken in their order: the table, its name, the columns, the ids.
  unfold resolve at h
  cases htable : d.table? with
  | none =>
    rw [htable] at h
    cases h
  | some table =>
    rw [htable] at h
    dsimp only at h
    split at h
    · cases h
    rename_i hnamed
    split at h
    · cases h
    rename_i hcolumns
    split at h
    · cases h
    · rename_i id hid
      cases h
      exact
        { entity := rfl
          table := htable
          tableNamed := by simpa using hnamed
          columnsNamed := by simpa using hcolumns
          id := hid
          columnOfField := rfl
          fieldOfColumn := rfl }
    · cases h

/-- A descriptor is resolved exactly to what says the same. -/
theorem resolve_eq_ok_iff : resolve d = .ok m ↔ m.Reads d := by
  constructor
  · exact reads_of_resolve
  · intro h
    have hcolumns : (mappedFields d.fields).find? (isBlankText ·.2) = none :=
      List.find?_eq_none.2 fun e he => by simp [h.columnsNamed e he]
    unfold resolve
    rw [h.table]
    simp only [h.tableNamed, hcolumns, h.id, ← h.entity, ← h.columnOfField, ← h.fieldOfColumn]
    rfl

/-- The id field has a column. -/
theorem Reads.column?_idField (h : m.Reads d) : m.column? m.idField = some m.idColumn := by
  have hid : m.idField ∈ ((mappedFields d.fields).filter (·.1.isId)).map (·.1.name) := by
    rw [h.id]
    exact List.mem_singleton_self _
  have hkey : m.idField ∈ m.columnOfField.keys := by
    rw [h.columnOfField, OrderedMap.keys_ofList, List.mem_eraseDups, List.map_map]
    exact List.map_subset _ (List.filter_subset_self _) hid
  obtain ⟨column, hcolumn⟩ := OrderedMap.mem_keys_iff.1 hkey
  simp [idColumn, column?, hcolumn]

end Metadata
end BeanKit

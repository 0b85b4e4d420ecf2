import BeanKit.Proofs.Repository.Saving
/-!
# Blank ids

A value is blank exactly where its text is empty: every printer writes at least one character for
whatever it is given, and only a missing value and the empty text leave nothing to write. Saving looks
at the text of the id alone, and so inserts a row exactly where its id is blank:
`Repository.save_inserts_blank_ids`.
-/

namespace BeanKit

/-! ## Texts of numbers and of dates -/

namespace Number

theorem toString_ne_empty (n : Int) : toString n ≠ "" := by
  rw [Int.toString_eq_repr, Int.repr_eq_if]
  split
  · exact Nat.repr_ne_empty
  · simp

theorem Decimal.text_ne_empty (d : Decimal) : d.text ≠ "" := by
  have hdigits : Nat.toDigits 10 d.digits ≠ [] := Nat.toDigits_ne_nil
  unfold Decimal.text
  dsimp only
  split
  · rw [Ne, String.ofList_eq_empty_iff]
    exact List.append_ne_nil_of_left_ne_nil hdigits _
  split
  · -- the point stands in the text, wherever the digits are cut
    rw [Ne, String.ofList_eq_empty_iff]
    exact List.append_ne_nil_of_right_ne_nil _ (List.cons_ne_nil _ _)
  · rw [Ne, String.ofList_eq_empty_iff, List.cons_append]
    exact List.cons_ne_nil _ _

theorem plainText_ne_empty (x : Double) : plainText x ≠ "" := by
  unfold plainText
  dsimp only
  split
  · decide
  · simp
  · simp
  · intro hempty
    obtain ⟨-, hdigits⟩ := String.append_eq_empty_iff.1 hempty
    split at hdigits
    · exact Decimal.text_ne_empty _ hdigits
    · exact absurd hdigits (by decide)

theorem onePlaceText_ne_empty (x : Double) : onePlaceText x ≠ "" := by
  unfold onePlaceText
  split
  · split
    · simp
    · exact plainText_ne_empty x
  · exact plainText_ne_empty x

end Number

theorem Date.text_ne_empty (d : Date) : d.text ≠ "" := by
  simp [Date.text]

/-- The day alone is a text already. -/
theorem Timestamp.text_ne_empty (t : Timestamp) : t.text ≠ "" := by
  simp only [Timestamp.text, Ne, String.append_eq_empty_iff, t.date.text_ne_empty, false_and,
    not_false_iff]

theorem Value.isBlank_iff_render (v : Value) : v.isBlank ↔ v.render = "" := by
  have hwritten {printed : Bool} {text : String} (hp : printed = false) (ht : text ≠ "") :
      printed = true ↔ text = "" := iff_of_false (ne_true_of_eq_false hp) ht
  cases v with
  | null => exact iff_of_true rfl rfl
  | text s => exact String.isEmpty_iff
  | bool b => cases b <;> exact hwritten rfl (by decide)
  | int n => exact hwritten rfl (Number.toString_ne_empty n)
  | uint n => exact hwritten rfl Nat.repr_ne_empty
  | float x => exact hwritten rfl (Number.onePlaceText_ne_empty x)
  | timestamp t => exact hwritten rfl t.text_ne_empty
  | date d => exact hwritten rfl d.text_ne_empty

/-! ## Insertions and updates -/

namespace Metadata

open BeanKit.Query Repository

variable {d : Descriptor} {m : Metadata} {columns columns' : ColumnValues} {id : String}
  {answer : Except Error String}

/-- The last value for the id field. -/
def idValue? (m : Metadata) (values : List (String × Value)) : Option Value :=
  (values.filter (·.1 = m.idField)).getLast?.map (·.2)

theorem idText?_eq_map (values : List (String × Value)) :
    m.idText? values = (m.idValue? values).map Value.render := by
  simp [idText?, idValue?, Function.comp_def]

/-- The answer is the statement that inserts a row of these columns. -/
def Inserts (m : Metadata) (columns : ColumnValues) (answer : Except Error String) : Prop :=
  ∃ insert, buildInsert m.table columns = .ok insert ∧ answer = .ok insert

/-- The answer is the statement that writes these columns to the row with the id. -/
def Updates (m : Metadata) (columns : ColumnValues) (id : String) (answer : Except Error String) :
    Prop :=
  ∃ update, buildUpdate m.table columns = .ok update ∧
    answer = .ok (update ++ (" WHERE " ++ m.idColumn ++ " = '" ++ id ++ "'"))

theorem exists_insertText_eq (table : String) (columns : ColumnValues) :
    ∃ rest, insertText table columns = "INSERT INTO " ++ rest := by
  delta insertText
  simp only [String.append_assoc]
  exact ⟨_, rfl⟩

theorem exists_updateText_eq (table : String) (columns : ColumnValues) :
    ∃ rest, updateText table columns = "UPDATE " ++ rest := by
  delta updateText
  simp only [String.append_assoc]
  exact ⟨_, rfl⟩

/-- The two kinds of statements start with different letters. -/
theorem Updates.not_inserts (h : m.Updates columns id answer) : ¬ m.Inserts columns' answer := by
  rintro ⟨insert, hinsert, rfl⟩
  obtain ⟨update, hupdate, hanswer⟩ := h
  obtain ⟨-, rfl⟩ := buildInsert_eq_ok_iff.1 hinsert
  obtain ⟨-, rfl⟩ := buildUpdate_eq_ok_iff.1 hupdate
  obtain ⟨more, hmore⟩ := exists_insertText_eq m.table columns'
  obtain ⟨rest, hrest⟩ := exists_updateText_eq m.table columns
  have htexts := congrArg String.toList (Except.ok.inj hanswer)
  rw [hmore, hrest] at htexts
  simp at htexts

/-- How a row is saved, by the value of its id. -/
structure SavedByBlankness (m : Metadata) (values : List (String × Value))
    (answer : Except Error String) : Prop where
  inserts_iff : ∀ v, m.idValue? values = some v →
    (m.Inserts (m.columnsOf values) answer ↔ v.isBlank)
  updates_iff : ∀ v, m.idValue? values = some v →
    (m.Updates (m.columnsOf values) v.render answer ↔ ¬ v.isBlank)
  /-- Values without an id are taken for a new row as well. -/
  missing : m.idValue? values = none → answer = buildInsert m.table (m.columnsOf values)

section Saved

variable {values : List (String × Value)} {v : Value}

theorem inserts_of_isBlank (hm : m.Reads d) (hv : m.idValue? values = some v) (h : v.isBlank) :
    m.Inserts (m.columnsOf values) (saveText m values) := by
  have htext : m.idText? values = some "" := by
    rw [idText?_eq_map, hv, Option.map_some, v.isBlank_iff_render.1 h]
  obtain ⟨e, he, hfield⟩ := exists_of_idText? htext
  refine saveText_of_no_id hm he ?_ (by rw [htext, Option.getD_some])
  rw [hfield, hm.column?_idField]
  exact Option.some_ne_none _

theorem updates_of_not_isBlank (hm : m.Reads d) (hv : m.idValue? values = some v)
    (h : ¬ v.isBlank) : m.Updates (m.columnsOf values) v.render (saveText m values) := by
  have htext : m.idText? values = some v.render := by rw [idText?_eq_map, hv, Option.map_some]
  exact saveText_of_id hm htext (mt v.isBlank_iff_render.2 h)

theorem savedByBlankness_saveText (hm : m.Reads d) (values : List (String × Value)) :
    m.SavedByBlankness values (saveText m values) where
  inserts_iff v hv := by
    constructor
    · intro hinserts
      by_contra hblank
      exact (updates_of_not_isBlank hm hv hblank).not_inserts hinserts
    · exact inserts_of_isBlank hm hv
  updates_iff v hv := by
    constructor
    · exact fun hupdates hblank => hupdates.not_inserts (inserts_of_isBlank hm hv hblank)
    · exact updates_of_not_isBlank hm hv
  missing hv := by
    rw [saveText_of_resolve hm, idText?_eq_map, hv, Option.map_none, Option.getD_none, if_pos rfl]

end Saved
end Metadata

/-- A value is blank exactly where its text is empty. So the test of the text of an id, by which saving
tells new rows from old ones, inserts a row exactly where its id is blank. -/
theorem Repository.save_inserts_blank_ids : (∀ v : Value, v.isBlank ↔ v.render = "") ∧
    ∀ {d : Descriptor} {m : Metadata} {r : Repository}, Metadata.resolve d = .ok m →
      r.metadata = some m → ∀ values, m.SavedByBlankness values (r.save values) := by
  refine ⟨Value.isBlank_iff_render, fun hm hr values => ?_⟩
  rw [Repository.save, withMetadata_of_bound hr]
  exact Metadata.savedByBlankness_saveText (Metadata.reads_of_resolve hm) values

/-- A negative zero is an id like any other, and the empty text is none. -/
theorem Repository.save_inserts_blank_ids_zero :
    let zero : Value := .float ⟨0x8000000000000000⟩
    let given : List (String × Value) := [("id", .null), ("id", zero)]
    let blank : List (String × Value) := [("id", .int 0), ("id", .text "")]
    Metadata.resolve productDescriptor = .ok productMetadata ∧
      productMetadata.Updates (productMetadata.columnsOf given) "-0.0"
        (Repository.save ⟨some productMetadata⟩ given) ∧
      productMetadata.Inserts (productMetadata.columnsOf blank)
        (Repository.save ⟨some productMetadata⟩ blank) := by
  intro zero given blank
  have hresolve : Metadata.resolve productDescriptor = .ok productMetadata := by rfl
  have hsaves (values : List (String × Value)) :
      productMetadata.SavedByBlankness values (Repository.save ⟨some productMetadata⟩ values) :=
    Repository.save_inserts_blank_ids.2 hresolve rfl values
  have hzero : zero.render = "-0.0" := by decide +kernel
  refine ⟨hresolve, ?_, ((hsaves blank).inserts_iff (.text "") rfl).2 rfl⟩
  rw [← hzero]
  exact ((hsaves given).updates_iff zero rfl).2 (by decide)

end BeanKit

import BeanKit.Proofs.Outcome
import BeanKit.Proofs.Query.Arguments
/-!
# What the text of a statement says

An insertion lists its columns and behind them its values, an update each column with its value.
Nothing is escaped in either, but as long as no name and no value has a mark in it that could end it,
the text gives back the row that it writes: `statements_determine_rows`.
-/

namespace BeanKit.Query

open Text (Separable)

/-! ## When there is a statement -/

section Build

variable {table text : String} {values : ColumnValues}

/-- A row that can be written: its table is not blank, and it has a column. -/
structure Writable (table : String) (values : ColumnValues) : Prop where
  tableNamed : ∃ ch ∈ table.toList, ¬ Text.isBlank ch
  hasColumns : values.entries ≠ []

theorem checkRow_eq_ok_iff : checkRow table values = .ok () ↔ Writable table values := by
  have hblank : ¬ Text.isBlankText table ↔ ∃ ch ∈ table.toList, ¬ Text.isBlank ch := by
    simp [Text.isBlankText]
  have hempty : ¬ values.isEmpty ↔ values.entries ≠ [] := not_congr List.isEmpty_iff
  unfold checkRow
  constructor
  · intro h
    split at h
    · cases h
    split at h
    · cases h
    · rename_i htable hcolumns
      exact ⟨hblank.1 htable, hempty.1 hcolumns⟩
  · rintro ⟨htable, hcolumns⟩
    rw [if_neg (hblank.2 htable), if_neg (hempty.2 hcolumns)]

theorem invalid_of_checkRow {e : Error} (h : checkRow table values = .error e) :
    ∃ why, e = .invalidArgument why := by
  unfold checkRow at h
  split at h
  · cases h
    exact ⟨_, rfl⟩
  split at h
  · cases h
    exact ⟨_, rfl⟩
  · cases h

theorem checkRow_of_not_writable (h : ¬ Writable table values) :
    ∃ why, checkRow table values = .error (.invalidArgument why) := by
  cases hrow : checkRow table values with
  | ok _ => exact absurd (checkRow_eq_ok_iff.1 hrow) h
  | error e =>
    obtain ⟨why, rfl⟩ := invalid_of_checkRow hrow
    exact ⟨why, rfl⟩

theorem buildInsert_eq_ok_iff :
    buildInsert table values = .ok text ↔ Writable table values ∧ insertText table values = text := by
  simp only [buildInsert, map_eq_ok_iff, ← checkRow_eq_ok_iff, Unique.exists_iff,
    PUnit.default_eq_unit]

theorem buildUpdate_eq_ok_iff :
    buildUpdate table values = .ok text ↔ Writable table values ∧ updateText table values = text := by
  simp only [buildUpdate, map_eq_ok_iff, ← checkRow_eq_ok_iff, Unique.exists_iff,
    PUnit.default_eq_unit]

end Build

/-! ## Names and values in a text -/

/-- A name without a space, a comma or a closing parenthesis: it ends where a statement goes on. -/
def Bare (name : String) : Prop :=
  ' ' ∉ name.toList ∧ ',' ∉ name.toList ∧ ')' ∉ name.toList

instance (name : String) : Decidable (Bare name) :=
  inferInstanceAs (Decidable (_ ∧ _ ∧ _))

theorem Bare.append_inj {name name' mark : String} {rest rest' : List Char} (h : Bare name)
    (h' : Bare name') (hm : mark.toList.head? = some ' ')
    (he : name.toList ++ (mark.toList ++ rest) = name'.toList ++ (mark.toList ++ rest')) :
    name = name' ∧ rest = rest' := by
  obtain ⟨more, hmore⟩ := List.head?_eq_some_iff.1 hm
  rw [hmore, List.cons_append, List.cons_append] at he
  obtain ⟨hname, hrest⟩ := Text.append_cons_inj_of_not_mem h.1 h'.1 he
  exact ⟨String.toList_inj.1 hname, List.append_cancel_left hrest⟩

/-- A column with its value, in an update and in the filter on an id. -/
def assignment (e : String × String) : String := e.1 ++ " = " ++ quoted e.2

theorem assignment_append_inj {e e' : String × String} {rest rest' : List Char}
    (h : Bare e.1 ∧ Unquoted e.2) (h' : Bare e'.1 ∧ Unquoted e'.2)
    (he : (assignment e).toList ++ rest = (assignment e').toList ++ rest') :
    e = e' ∧ rest = rest' := by
  simp only [assignment, String.toList_append, List.append_assoc] at he
  obtain ⟨hcolumn, he⟩ := h.1.append_inj h'.1 rfl he
  obtain ⟨hvalue, hrest⟩ := quoted_append_inj h.2 h'.2 he
  exact ⟨Prod.ext hcolumn hvalue, hrest⟩

theorem separable_columns :
    Separable id Bare fun rest => ∃ ch ∈ rest.head?, ch = ',' ∨ ch = ')' where
  apart h h' hr hr' he := by
    have hclear : ∀ {column : String}, Bare column →
        ∀ ch ∈ column.toList, ¬ (ch = ',' ∨ ch = ')') := by
      rintro column hbare ch hch (rfl | rfl)
      · exact hbare.2.1 hch
      · exact hbare.2.2 hch
    obtain ⟨hcolumn, hrest⟩ := Text.append_inj_of_stop (hclear h) (hclear h') hr hr' he
    exact ⟨String.toList_inj.1 hcolumn, hrest⟩
  comma rest := ⟨',', rfl, .inl rfl⟩

theorem separable_literals : Separable quoted Unquoted fun _ => True where
  apart h h' _ _ he := quoted_append_inj h h' he
  comma _ := trivial

theorem separable_assignments :
    Separable assignment (fun e => Bare e.1 ∧ Unquoted e.2) fun _ => True where
  apart h h' _ _ he := assignment_append_inj h h' he
  comma _ := trivial

/-! ## The rows of the statements -/

/-- An insertion as a reader of its text finds it: the columns, and the literals on their own. -/
def rowText (table : String) (columns literals : List String) : String :=
  "INSERT INTO " ++ table ++ " (" ++ ", ".intercalate columns ++ ") VALUES ("
    ++ ", ".intercalate (literals.map quoted) ++ ")"

theorem insertText_eq (table : String) (values : ColumnValues) :
    insertText table values = rowText table values.keys values.values := rfl

/-- Names and values that a text gives back. -/
structure BareRow (table : String) (columns literals : List String) : Prop where
  table : Bare table
  columns : ∀ column ∈ columns, Bare column
  literals : ∀ literal ∈ literals, Unquoted literal

section Rows

variable {table table' : String} {columns columns' literals literals' : List String}
  {values others : ColumnValues} {rest rest' : List Char}

theorem rowText_inj (h : BareRow table columns literals) (h' : BareRow table' columns' literals')
    (hc : columns ≠ []) (hc' : columns' ≠ []) (hl : literals ≠ []) (hl' : literals' ≠ [])
    (he : rowText table columns literals = rowText table' columns' literals') :
    table = table' ∧ columns = columns' ∧ literals = literals' := by
  rw [← String.toList_inj] at he
  delta rowText at he
  simp only [String.toList_append, List.append_assoc, List.append_cancel_left_eq] at he
  obtain ⟨htable, he⟩ := h.table.append_inj h'.table rfl he
  have hstop : ∀ rest : List Char,
      ∃ ch ∈ (") VALUES (".toList ++ rest).head?, ch = ',' ∨ ch = ')' := fun _ => ⟨')', rfl, .inr rfl⟩
  obtain ⟨hcolumns, he⟩ := separable_columns.of_intercalate hc hc' h.columns h'.columns
    (hstop _) (hstop _) (by simp) (by simp) (by simpa only [List.map_id] using he)
  obtain ⟨hliterals, -⟩ := separable_literals.of_intercalate hl hl' h.literals h'.literals trivial
    trivial (by simp) (by simp) (List.append_cancel_left he)
  exact ⟨htable, hcolumns, hliterals⟩

theorem BareRow.entries (h : BareRow table values.keys values.values) :
    ∀ e ∈ values.entries, Bare e.1 ∧ Unquoted e.2 := fun _ he =>
  ⟨h.columns _ (List.mem_map_of_mem he), h.literals _ (List.mem_map_of_mem he)⟩

theorem updateText_append_inj (h : BareRow table values.keys values.values)
    (h' : BareRow table' others.keys others.values) (hne : values.entries ≠ [])
    (hne' : others.entries ≠ []) (hr : rest.head? ≠ some ',') (hr' : rest'.head? ≠ some ',')
    (he : (updateText table values).toList ++ rest = (updateText table' others).toList ++ rest') :
    table = table' ∧ values = others ∧ rest = rest' := by
  simp only [updateText, String.toList_append, List.append_assoc, List.append_cancel_left_eq] at he
  obtain ⟨htable, he⟩ := h.table.append_inj h'.table rfl he
  obtain ⟨hentries, hrest⟩ := separable_assignments.of_intercalate hne hne' h.entries h'.entries
    trivial trivial hr hr' he
  exact ⟨htable, OrderedMap.eq_of_entries hentries, hrest⟩

/-- The row that a statement inserts, as its columns and its literals tell it. -/
theorem entries_of_rowText (h : BareRow table values.keys values.values)
    (h' : BareRow table' columns literals) (hc : columns ≠ []) (hl : literals ≠ [])
    (hi : buildInsert table values = .ok (rowText table' columns literals)) :
    table' = table ∧ columns.length = literals.length ∧ values.entries = columns.zip literals := by
  obtain ⟨hw, htext⟩ := buildInsert_eq_ok_iff.1 hi
  rw [insertText_eq] at htext
  obtain ⟨rfl, rfl, rfl⟩ := rowText_inj h h' (by simpa [OrderedMap.keys] using hw.hasColumns) hc
    (by simpa [OrderedMap.values] using hw.hasColumns) hl htext
  refine ⟨rfl, ?_, values.entries_eq_zip⟩
  rw [OrderedMap.keys, OrderedMap.values, List.length_map, List.length_map]

theorem eq_of_buildInsert {text : String} (h : BareRow table values.keys values.values)
    (h' : BareRow table' others.keys others.values) (hi : buildInsert table values = .ok text)
    (hi' : buildInsert table' others = .ok text) : table = table' ∧ values = others := by
  obtain ⟨hw', rfl⟩ := buildInsert_eq_ok_iff.1 hi'
  obtain ⟨htable, -, hentries⟩ := entries_of_rowText h h'
    (by simpa [OrderedMap.keys] using hw'.hasColumns)
    (by simpa [OrderedMap.values] using hw'.hasColumns) hi
  rw [← others.entries_eq_zip] at hentries
  exact ⟨htable.symm, OrderedMap.eq_of_entries hentries⟩

theorem eq_of_buildUpdate {text : String} (h : BareRow table values.keys values.values)
    (h' : BareRow table' others.keys others.values) (hu : buildUpdate table values = .ok text)
    (hu' : buildUpdate table' others = .ok text) : table = table' ∧ values = others := by
  obtain ⟨hw, rfl⟩ := buildUpdate_eq_ok_iff.1 hu
  obtain ⟨hw', he⟩ := buildUpdate_eq_ok_iff.1 hu'
  have htexts : (updateText table values).toList ++ [] = (updateText table' others).toList ++ [] := by
    rw [he]
  obtain ⟨htable, hvalues, -⟩ := updateText_append_inj h h' hw.hasColumns hw'.hasColumns (by simp)
    (by simp) htexts
  exact ⟨htable, hvalues⟩

theorem filterById_inj {column column' id id' : String} (hc : Bare column) (hc' : Bare column')
    (hi : Unquoted id) (hi' : Unquoted id') (he : filterById column id = filterById column' id') :
    column = column' ∧ id = id' := by
  have htexts : (assignment (column, id)).toList ++ [] = (assignment (column', id')).toList ++ [] := by
    simpa [filterById, assignment, ← String.toList_inj] using he
  obtain ⟨hboth, -⟩ := assignment_append_inj ⟨hc, hi⟩ ⟨hc', hi'⟩ htexts
  exact Prod.mk.inj hboth

theorem eq_of_filteredUpdate {column column' id id' text : String}
    (h : BareRow table values.keys values.values) (h' : BareRow table' others.keys others.values)
    (hc : Bare column) (hc' : Bare column') (hi : Unquoted id) (hi' : Unquoted id')
    (hu : (buildUpdate table values).map (· ++ filterById column id) = .ok text)
    (hu' : (buildUpdate table' others).map (· ++ filterById column' id') = .ok text) :
    table = table' ∧ values = others ∧ column = column' ∧ id = id' := by
  obtain ⟨update, hupdate, rfl⟩ := map_eq_ok_iff.1 hu
  obtain ⟨update', hupdate', he⟩ := map_eq_ok_iff.1 hu'
  obtain ⟨hw, rfl⟩ := buildUpdate_eq_ok_iff.1 hupdate
  obtain ⟨hw', rfl⟩ := buildUpdate_eq_ok_iff.1 hupdate'
  have hhead : ∀ column id, (filterById column id).toList.head? ≠ some ',' := fun column id => by
    simp [filterById]
  rw [← String.toList_inj, String.toList_append, String.toList_append] at he
  obtain ⟨htable, hvalues, hfilter⟩ := updateText_append_inj h h' hw.hasColumns hw'.hasColumns
    (hhead column id) (hhead column' id') he.symm
  exact ⟨htable, hvalues, filterById_inj hc hc' hi hi' (String.toList_inj.1 hfilter)⟩

end Rows

/-- Insertions and updates are refused for the same reason, and exactly where a row cannot be written.
An insertion, an update and an update with a filter on the id each give back all that they were made
of, with each value under its own column. -/
theorem statements_determine_rows :
    (∀ table values,
      ((∃ text, buildInsert table values = .ok text) ↔ Writable table values) ∧
      ((∃ text, buildUpdate table values = .ok text) ↔ Writable table values) ∧
      (¬ Writable table values → ∃ why,
        buildInsert table values = .error (.invalidArgument why) ∧
          buildUpdate table values = .error (.invalidArgument why))) ∧
    (∀ table table' values others, BareRow table values.keys values.values →
      BareRow table' others.keys others.values →
      (∀ text, buildInsert table values = .ok text → buildInsert table' others = .ok text →
        table = table' ∧ values = others) ∧
      (∀ text, buildUpdate table values = .ok text → buildUpdate table' others = .ok text →
        table = table' ∧ values = others) ∧
      ∀ column column' id id', Bare column → Bare column' → Unquoted id → Unquoted id' →
        ∀ text, (buildUpdate table values).map (· ++ filterById column id) = .ok text →
          (buildUpdate table' others).map (· ++ filterById column' id') = .ok text →
            table = table' ∧ values = others ∧ column = column' ∧ id = id') ∧
    ∀ table table' values columns literals, BareRow table values.keys values.values →
      BareRow table' columns literals → columns ≠ [] → literals ≠ [] →
        buildInsert table values = .ok (rowText table' columns literals) →
          table' = table ∧ columns.length = literals.length ∧
            values.entries = columns.zip literals := by
  refine ⟨fun table values => ⟨?_, ?_, fun h => ?_⟩, fun table table' values others h h' =>
    ⟨fun _ => eq_of_buildInsert h h', fun _ => eq_of_buildUpdate h h', ?_⟩,
    fun _ _ _ _ _ => entries_of_rowText⟩
  · simp only [buildInsert_eq_ok_iff, exists_and_left, exists_eq', and_true]
  · simp only [buildUpdate_eq_ok_iff, exists_and_left, exists_eq', and_true]
  · obtain ⟨why, hwhy⟩ := checkRow_of_not_writable h
    exact ⟨why, by rw [buildInsert, hwhy]; rfl, by rw [buildUpdate, hwhy]; rfl⟩
  · exact fun _ _ _ _ hc hc' hi hi' _ => eq_of_filteredUpdate h h' hc hc' hi hi'

/-- Values that look like the rest of a statement: what ends them is the quote behind them. -/
theorem statements_determine_rows_lookalike :
    let values : ColumnValues := .ofList [("A", ", B = (x)"), ("B", ") VALUES (")]
    BareRow "books" values.keys values.values ∧ Writable "books" values ∧
      (∃ why, buildInsert " " values = .error (.invalidArgument why) ∧
        buildUpdate " " values = .error (.invalidArgument why)) ∧
      (∀ others : ColumnValues, BareRow "books" others.keys others.values →
        (buildUpdate "books" others).map (· ++ filterById "ID" "7") =
          .ok "UPDATE books SET A = ', B = (x)', B = ') VALUES (' WHERE ID = '7'" →
            values = others) ∧
      buildInsert "books" values = .ok (rowText "books" ["A", "B"] [", B = (x)", ") VALUES ("]) ∧
      values.entries = ["A", "B"].zip [", B = (x)", ") VALUES ("] := by
  intro values
  obtain ⟨hbuild, hinj, hread⟩ := statements_determine_rows
  have hbare : BareRow "books" values.keys values.values := ⟨by decide, by decide, by decide⟩
  have hblank : ¬ Writable " " values := by
    rintro ⟨⟨ch, hch, hnot⟩, -⟩
    obtain rfl : ch = ' ' := by simpa using hch
    exact hnot (by decide)
  have hinsert : buildInsert "books" values =
      .ok (rowText "books" ["A", "B"] [", B = (x)", ") VALUES ("]) := by rfl
  refine ⟨hbare, ⟨⟨'b', by decide, by decide⟩, by decide⟩, (hbuild _ _).2.2 hblank, ?_, hinsert,
    (hread _ _ _ _ _ hbare ⟨by decide, by decide, by decide⟩ (by decide) (by decide) hinsert).2.2⟩
  intro others hothers hu
  exact ((hinj _ _ _ _ hbare hothers).2.2 "ID" "ID" "7" "7" (by decide) (by decide) (by decide)
    (by decide) _ rfl hu).2.1

end BeanKit.Query

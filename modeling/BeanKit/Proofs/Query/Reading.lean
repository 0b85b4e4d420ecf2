import BeanKit.Proofs.Query.Spelling
import Mathlib.Data.List.Chain
/-!
# Reading undoes spelling

`parse_spelled`: over an unambiguous map, the reader answers every spelling of a list of clauses
with that list. The one thing that a spelling must not do is run a comparison into the next clause
(`Swallows`). The reader never goes back, so the proof follows it clause by clause: `run_clause`
takes one clause off the front of a text, and what follows that clause is in its hypotheses.
-/

namespace BeanKit.Query

open Naming (capitalizeChars)

/-! ## Single steps -/

theorem parse_of_toList {method : String} {text : List Char}
    (hm : method.toList = findBy.toList ++ text) (h : text ≠ []) (fields : FieldMap) :
    parse fields method = Scan.run (.ofMap fields) method { rest := text } := by
  obtain ⟨ch, more, rfl⟩ := List.exists_cons_of_ne_nil h
  rw [parse, parseWith, hm, Text.after?_append]

theorem parse_eq_run (fields : FieldMap) {text : List Char} (h : text ≠ []) :
    parse fields (String.ofList (findBy.toList ++ text)) =
      Scan.run (.ofMap fields) (String.ofList (findBy.toList ++ text)) { rest := text } :=
  parse_of_toList String.toList_ofList h fields

/-- Where a field is expected and stands, it is taken. -/
theorem run_field {fields : FieldMap} (hu : Unambiguous fields) (method : String) {c : Condition}
    (hc : Known fields c) (text : List Char) (j : Option Connective) (done : List Clause) :
    Scan.run (.ofMap fields) method
        { rest := capitalizeChars c.field.toList ++ text, join := j, clauses := done } =
      Scan.run (.ofMap fields) method
        { rest := text, expect := .condition, join := j, clauses := done
          current := some { field := c.field, column := c.column } } := by
  have hne : capitalizeChars c.field.toList ≠ [] :=
    hu.nonempty _ hc.mem_keys
  refine Scan.run_step (by simp [hne]) ?_
  simp only [Scan.step, Scan.stepField, match?_spelled hu hc]

/-- Behind a field, its negation and its comparison are taken, up to a text that closes it. -/
theorem run_condition (index : FieldIndex) (method : String) {c : Condition}
    {tail after : List Char} (hk : c.comparison.Spells tail) (hc : Closes c.comparison after)
    (j : Option Connective) (done : List Clause) :
    Scan.run index method
        { rest := negationWord c.negated ++ (tail ++ after), expect := .condition, join := j
          clauses := done, current := some { field := c.field, column := c.column } } =
      Scan.run index method
        { rest := after, expect := .connective, join := j, clauses := done, current := some c } := by
  have hstep := takeNegation_spelled c.negated hk hc
  by_cases hr : negationWord c.negated ++ (tail ++ after) = []
  · -- no text is left, which stands for an equality that is neither negated nor written
    obtain ⟨hn, ht⟩ := List.append_eq_nil_iff.1 hr
    obtain ⟨ht, ha⟩ := List.append_eq_nil_iff.1 ht
    rw [Scan.run_nil hr, Scan.run_nil ha]
    obtain ⟨field, column, comparison, negated⟩ := c
    obtain rfl : comparison = .isEqual := by
      rw [ht] at hk
      exact comparison_of_spells_nil hk
    cases negated with
    | false => rfl
    | true => simp [negationWord, notWord] at hn
  · refine Scan.run_step hr ?_
    simp only [Scan.step, Scan.stepCondition, hstep, takeComparison_spelled hk hc]

/-! ## Between clauses -/

/-- The reader has read some clauses, all of them complete, and stands in front of a text. -/
structure Scan.Behind (clauses : List Clause) (rest : List Char) (s : Scan) : Prop where
  rest : s.rest = rest
  expect : s.expect = .connective
  current : s.current ≠ none
  completed : s.completed = clauses

theorem Connective.word_append_ne_nil (j : Connective) (text : List Char) :
    j.word.toList ++ text ≠ [] := by cases j <;> simp [Connective.word]

/-- A word that joins is taken, and completes the clause in front of it. -/
theorem Scan.Behind.run_join {s : Scan} {clauses : List Clause} {j : Connective}
    {after : List Char} (h : s.Behind clauses (j.word.toList ++ after)) (index : FieldIndex)
    (method : String) :
    s.run index method = Scan.run index method { rest := after, join := some j, clauses } := by
  refine Scan.run_step (by rw [h.rest]; exact j.word_append_ne_nil after) ?_
  simp only [Scan.step, h.expect, Scan.stepConnective, h.rest, connective?_word, h.completed]

/-- At the end of the text, the clauses that have been read are the answer. -/
theorem Scan.Behind.run {s : Scan} {clauses : List Clause} (h : s.Behind clauses [])
    (index : FieldIndex) (method : String) : s.run index method = .ok ⟨method, clauses⟩ := by
  rw [Scan.run_nil h.rest, Scan.finish]
  cases hc : s.current with
  | none => exact absurd hc h.current
  | some c => rw [h.completed]

/-! ## Clause by clause -/

/-- The reader takes a clause off the front of a text that is closed behind it. -/
theorem run_clause {fields : FieldMap} (hu : Unambiguous fields) (method : String) {c : Clause}
    (hk : Known fields c.condition) {ctext after : List Char} (hs : c.condition.Spells ctext)
    (hc : Closes c.condition.comparison after) (done : List Clause) :
    Scan.run (.ofMap fields) method { rest := ctext ++ after, join := c.join, clauses := done } =
      Scan.run (.ofMap fields) method
        { rest := after, expect := .connective, join := c.join, clauses := done
          current := some c.condition } := by
  obtain ⟨tail, htail, rfl⟩ := hs
  rw [List.append_assoc, List.append_assoc, run_field hu method hk]
  exact run_condition _ _ htail hc _ _

/-- A text that closes every condition, and that no field runs into to read as `Equal`. -/
structure Halts (fields : FieldMap) (text : List Char) : Prop where
  closes : ∀ k, Closes k text
  apart : ∀ f ∈ fields.keys, "Equal".toList <+: capitalizeChars f.toList ++ text →
    "Equal".toList <+: capitalizeChars f.toList

theorem halts_nil (fields : FieldMap) : Halts fields [] where
  closes k := closes_of_boundary (.inl rfl) (by simp)
  apart f _ h := by rwa [List.append_nil] at h

/-- What follows a clause closes it, unless the two clauses swallow. -/
theorem closes_of_not_swallows {fields : FieldMap} (hu : Unambiguous fields) {c : Clause}
    {cs : List Clause} {text after : List Char} (ha : Halts fields after) (hs : Spells cs text)
    (hj : ∀ d ∈ cs, d.join ≠ none) (hk : ∀ d ∈ cs, Known fields d.condition)
    (hg : ∀ d ∈ cs.head?, ¬ Swallows c d) : Closes c.condition.comparison (text ++ after) := by
  cases hs with
  | nil => exact ha.closes _
  | @cons d ds dtext rest hd hds =>
    obtain ⟨j, hdj⟩ := Option.ne_none_iff_exists'.1 (hj d List.mem_cons_self)
    have hb : Boundary (joinWord d.join ++ (dtext ++ rest) ++ after) :=
      .inr ⟨j, dtext ++ rest ++ after, by rw [hdj, joinWord, List.append_assoc]⟩
    refine closes_of_boundary hb fun hc h => ?_
    obtain ⟨tail, hd, rfl⟩ := hd
    cases j with
    | and => simp [hdj, joinWord, Connective.word] at h
    | or =>
      have hkey : d.condition.field ∈ fields.keys := (hk d (by simp)).mem_keys
      have hEqual : "Equal".toList <+: capitalizeChars d.condition.field.toList ++
          (negationWord d.condition.negated ++ (tail ++ rest) ++ after) := by
        simpa [hdj, joinWord, Connective.word] using h
      refine hg d (by simp) ⟨hc, hdj, ?_⟩
      have hhead := head_behind_field d.condition.negated hd
        (boundary_of_spells hds fun e he => hj e (by simp [he]))
      -- the field meets `after` itself where the clause is written without any word behind it
      by_cases hmore : negationWord d.condition.negated ++ (tail ++ rest) = []
      · rw [hmore, List.nil_append] at hEqual
        exact ha.apart _ hkey hEqual
      · refine equal_prefix_field (hu.nonempty _ hkey) ?_ hEqual
        rwa [List.head?_append_of_ne_nil _ hmore]

/-- The reader takes clauses off the front of a text, whatever it is that halts them. -/
theorem run_clauses_before {fields : FieldMap} (hu : Unambiguous fields) (method : String) {c : Clause}
    {cs : List Clause} {ctext rest after : List Char} (ha : Halts fields after)
    (done : List Clause) (hs : c.condition.Spells ctext) (hss : Spells cs rest)
    (hj : ∀ d ∈ cs, d.join ≠ none) (hk : ∀ d ∈ c :: cs, Known fields d.condition)
    (hg : List.IsChain (fun c d => ¬ Swallows c d) (c :: cs)) :
    ∃ s : Scan, s.Behind (done ++ c :: cs) after ∧
      Scan.run (.ofMap fields) method
        { rest := ctext ++ (rest ++ after), join := c.join, clauses := done } =
      s.run (.ofMap fields) method := by
  induction cs generalizing c ctext rest done with
  | nil =>
    cases hss
    rw [List.nil_append, run_clause hu method (hk c (by simp)) hs (ha.closes _)]
    exact ⟨_, ⟨rfl, rfl, by simp, rfl⟩, rfl⟩
  | cons d ds ih =>
    rw [List.isChain_cons_cons] at hg
    obtain ⟨hc, hds⟩ := List.forall_mem_cons.1 hk
    rw [run_clause hu method hc hs
      (closes_of_not_swallows hu ha hss hj hds (by simpa using hg.1))]
    cases hss with
    | @cons _ _ dtext drest hd hrest =>
      obtain ⟨j, hdj⟩ := Option.ne_none_iff_exists'.1 (hj d (by simp))
      obtain ⟨s, hs, hrun⟩ := ih (done ++ [c]) hd hrest (fun e he => hj e (by simp [he])) hds hg.2
      refine ⟨s, by simpa using hs, ?_⟩
      have hbehind : Scan.Behind (done ++ [c]) (j.word.toList ++ (dtext ++ (drest ++ after)))
          { rest := j.word.toList ++ (dtext ++ (drest ++ after)), expect := .connective
            join := c.join, clauses := done, current := some c.condition } :=
        ⟨rfl, rfl, by simp, rfl⟩
      rw [← hrun, hdj, joinWord, List.append_assoc, List.append_assoc, hbehind.run_join]

theorem run_clauses {fields : FieldMap} (hu : Unambiguous fields) (method : String) (c : Clause)
    (cs : List Clause) (ctext rest : List Char) (done : List Clause)
    (hs : c.condition.Spells ctext) (hss : Spells cs rest) (hj : ∀ d ∈ cs, d.join ≠ none)
    (hk : ∀ d ∈ c :: cs, Known fields d.condition)
    (hg : List.IsChain (fun c d => ¬ Swallows c d) (c :: cs)) :
    Scan.run (.ofMap fields) method { rest := ctext ++ rest, join := c.join, clauses := done } =
      .ok ⟨method, done ++ c :: cs⟩ := by
  obtain ⟨s, hbehind, hrun⟩ :=
    run_clauses_before hu method (halts_nil fields) done hs hss hj hk hg
  rw [List.append_nil] at hrun
  rw [hrun, hbehind.run]

/-- The reader takes all of a spelling, which is not empty, from its start. -/
theorem run_of_spells_before {fields : FieldMap} (hu : Unambiguous fields) (method : String)
    {clauses : List Clause} {text after : List Char} (ha : Halts fields after)
    (hne : clauses ≠ []) (hj : WellJoined clauses) (hk : ∀ c ∈ clauses, Known fields c.condition)
    (hg : clauses.IsChain fun c d => ¬ Swallows c d) (hs : Spells clauses text) :
    text ≠ [] ∧ ∃ s : Scan, s.Behind clauses after ∧
      Scan.run (.ofMap fields) method { rest := text ++ after } = s.run (.ofMap fields) method := by
  cases hs with
  | nil => exact absurd rfl hne
  | @cons c cs ctext rest hc hcs =>
    have hrun := run_clauses_before hu method ha [] hc hcs hj.2 hk hg
    obtain ⟨tail, -, rfl⟩ := hc
    have hfield := hu.nonempty _ (hk c List.mem_cons_self).mem_keys
    rw [hj.1] at hrun ⊢
    exact ⟨by simp [joinWord, hfield], by simpa [joinWord] using hrun⟩

/-- Reading undoes spelling: over an unambiguous map, `findBy` and any spelling of a list of clauses
reads as those clauses, where no comparison runs into the clause behind it. -/
theorem parse_spelled {fields : FieldMap} (hu : Unambiguous fields) {clauses : List Clause}
    {text : List Char} (hne : clauses ≠ []) (hj : WellJoined clauses)
    (hk : ∀ c ∈ clauses, Known fields c.condition)
    (hg : List.IsChain (fun c d => ¬ Swallows c d) clauses) (hs : Spells clauses text) :
    parse fields (String.ofList (findBy.toList ++ text)) =
      .ok ⟨String.ofList (findBy.toList ++ text), clauses⟩ := by
  cases hs with
  | nil => exact absurd rfl hne
  | @cons c cs ctext rest hc hcs =>
    have hctext : ctext ≠ [] := by
      obtain ⟨tail, -, rfl⟩ := id hc
      simp [hu.nonempty _ (List.mem_map.2 ⟨_, hk c (by simp), rfl⟩)]
    rw [hj.1, joinWord, List.nil_append, parse_eq_run fields (by simp [hctext]), ← hj.1]
    exact run_clauses hu _ c cs ctext rest [] hc hcs hj.2 hk hg

/-- Three clauses over a field in one word and a field in two, with an equality left out. -/
theorem parse_spelled_three_clauses :
    parse (.ofList [("field1", "FIELD1"), ("author_name", "AUTHOR")])
        "findByField1NotGreaterOrAuthorNameLessOrEqualAndField1Not" =
      .ok ⟨"findByField1NotGreaterOrAuthorNameLessOrEqualAndField1Not",
        [⟨none, ⟨"field1", "FIELD1", .greater, true⟩⟩,
         ⟨some .or, ⟨"author_name", "AUTHOR", .lessOrEqual, false⟩⟩,
         ⟨some .and, ⟨"field1", "FIELD1", .isEqual, true⟩⟩]⟩ := by
  have hlast : Condition.Spells ⟨"field1", "FIELD1", .isEqual, true⟩ "Field1Not".toList :=
    ⟨[], .silent, by decide⟩
  have hmiddle : Condition.Spells ⟨"author_name", "AUTHOR", .lessOrEqual, false⟩
      "AuthorNameLessOrEqual".toList := ⟨_, .word .lessOrEqual, by decide⟩
  have hfirst : Condition.Spells ⟨"field1", "FIELD1", .greater, true⟩
      "Field1NotGreater".toList := ⟨_, .word .greater, by decide⟩
  exact parse_spelled ⟨by decide, by decide⟩ (by decide) (by decide) (by decide) (by decide)
    (.cons (c := ⟨none, _⟩) hfirst
      (.cons (c := ⟨some .or, _⟩) hmiddle (.cons (c := ⟨some .and, _⟩) hlast .nil)))

end BeanKit.Query

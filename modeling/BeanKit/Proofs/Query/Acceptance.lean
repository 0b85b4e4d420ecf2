import BeanKit.Proofs.Query.Spelling
import Mathlib
/-!
# Whatever is read was spelled

`parse_accepts_only_spellings`: a query name that reads as a predicate is `findBy` and a spelling of
the predicate's clauses, so the reader accepts nothing but its grammar and loses no part of the
name. `Scan.Accounts` is the invariant: the text that has been passed is a spelling of the clauses
read so far. It holds for any map, also where a field is capitalised to nothing.
-/

namespace BeanKit.Query

open Naming (capitalizeChars)

/-! ## What is taken off the front of a text -/

theorem matchWord?_sound {α : Type} {word : α → String} {words : List α} {text after : List Char}
    {a : α} (h : matchWord? word words text = some (a, after)) :
    text = (word a).toList ++ after := by
  induction words with
  | nil => simp [matchWord?] at h
  | cons b words ih =>
    cases hb : Text.after? (word b).toList text with
    | none => exact ih (by simpa [matchWord?, hb] using h)
    | some r =>
      obtain ⟨rfl, rfl⟩ : b = a ∧ r = after := by simpa [matchWord?, hb] using h
      exact Text.after?_eq_some_iff.1 hb

theorem takeNegation_sound (text : List Char) :
    text = negationWord (takeNegation text).1 ++ (takeNegation text).2 := by
  cases h : Text.after? notWord.toList text with
  | none => simp [takeNegation, h, negationWord]
  | some after =>
    simp only [takeNegation, h]
    split
    · rfl
    · exact Text.after?_eq_some_iff.1 h

theorem takeComparison_sound (text : List Char) :
    ∃ tail, (takeComparison text).1.Spells tail ∧ text = tail ++ (takeComparison text).2 := by
  cases h : comparison? text with
  | none => exact ⟨[], by simpa [takeComparison, h] using .silent, by simp [takeComparison, h]⟩
  | some p =>
    obtain ⟨k, after⟩ := p
    exact ⟨k.word.toList, by simpa [takeComparison, h] using .word k,
      by simpa [takeComparison, h] using matchWord?_sound h⟩

/-! ## Every kind of step, read backwards -/

theorem Scan.stepField_ok {index : FieldIndex} {method : String} {s t : Scan}
    (h : s.stepField index method = .ok t) :
    ∃ c after, index.match? s.rest = some (c, after) ∧
      t = { s with
              rest := after, expect := .condition
              current := some { field := c.field, column := c.column } } := by
  unfold Scan.stepField at h
  split at h
  · rename_i c after hm
    exact ⟨c, after, hm, (Except.ok.inj h).symm⟩
  · split at h <;> cases h

theorem Scan.stepCondition_ok {method : String} {s t : Scan} (h : s.stepCondition method = .ok t) :
    ∃ c negated k tail after, s.current = some c ∧ Comparison.Spells k tail ∧
      s.rest = negationWord negated ++ (tail ++ after) ∧
      t = { s with
              rest := after, expect := .connective
              current := some { c with comparison := k, negated := negated } } := by
  unfold Scan.stepCondition at h
  split at h
  · cases h
  · rename_i c hc
    obtain ⟨tail, hk, ht⟩ := takeComparison_sound (takeNegation s.rest).2
    refine ⟨c, _, _, tail, _, hc, hk, ?_, (Except.ok.inj h).symm⟩
    rw [← ht]
    exact takeNegation_sound s.rest

theorem Scan.stepConnective_ok {method : String} {s t : Scan}
    (h : s.stepConnective method = .ok t) :
    ∃ j after, s.rest = j.word.toList ++ after ∧
      t = { rest := after, expect := .field, current := none, join := some j
            clauses := s.completed } := by
  unfold Scan.stepConnective at h
  split at h
  · cases h
  · rename_i j after hm
    exact ⟨j, after, matchWord?_sound hm, (Except.ok.inj h).symm⟩

/-! ## The invariant -/

/-- What has been passed of the clause under construction, behind the word that joins it. -/
inductive Partial (fields : FieldMap) : Expectation → Option Condition → List Char → Prop
  | field : Partial fields .field none []
  | condition {field column : String} : (field, column) ∈ fields.entries →
      Partial fields .condition (some { field, column }) (capitalizeChars field.toList)
  | connective {c : Condition} {text : List Char} : Known fields c → c.Spells text →
      Partial fields .connective (some c) text

/-- Wherever the text may end, a clause under construction is complete. -/
theorem Partial.spells {fields : FieldMap} {e : Expectation} {c : Condition} {text : List Char}
    (h : Partial fields e (some c) text) : Known fields c ∧ c.Spells text := by
  cases h with
  | condition hf => exact ⟨hf, [], .silent, by simp [negationWord]⟩
  | connective hk hs => exact ⟨hk, hs⟩

/-- What the reader has passed of `body` is a spelling of its clauses, then the word that joins the
clause under construction, then what there is of that clause. A word is waiting exactly where there
is a clause in front of it. -/
structure Scan.Accounts (fields : FieldMap) (body : List Char) (s : Scan) : Prop where
  passed : ∃ text part, Spells s.clauses text ∧ Partial fields s.expect s.current part ∧
    body = text ++ (joinWord s.join ++ (part ++ s.rest))
  joined : WellJoined s.clauses
  known : ∀ c ∈ s.clauses, Known fields c.condition
  pending : s.join = none ↔ s.clauses = []

theorem accounts_start (fields : FieldMap) (body : List Char) :
    Scan.Accounts fields body { rest := body } where
  passed := ⟨[], [], .nil, .field, rfl⟩
  joined := trivial
  known := by simp
  pending := by simp

section Steps

variable {fields : FieldMap} {body : List Char} {method : String} {s t : Scan}

theorem accounts_stepField (h : s.Accounts fields body) (he : s.expect = .field)
    (hs : s.stepField (.ofMap fields) method = .ok t) : t.Accounts fields body := by
  obtain ⟨c, after, hm, rfl⟩ := Scan.stepField_ok hs
  obtain ⟨hc, hrest⟩ := match?_sound hm
  obtain ⟨hf, hspelling⟩ := mem_ofMap.1 hc
  obtain ⟨text, part, hspell, hpart, hbody⟩ := h.passed
  rw [he] at hpart
  generalize s.current = current at hpart
  cases hpart
  refine ⟨⟨text, _, hspell, .condition hf, ?_⟩, h.joined, h.known, h.pending⟩
  rw [hbody, hrest, hspelling, List.nil_append]

theorem accounts_stepCondition (h : s.Accounts fields body) (he : s.expect = .condition)
    (hs : s.stepCondition method = .ok t) : t.Accounts fields body := by
  obtain ⟨c, negated, k, tail, after, hcur, hk, hrest, rfl⟩ := Scan.stepCondition_ok hs
  obtain ⟨text, part, hspell, hpart, hbody⟩ := h.passed
  rw [he, hcur] at hpart
  cases hpart with
  | condition hf =>
    refine ⟨⟨text, _, hspell, .connective hf ⟨tail, hk, rfl⟩, ?_⟩, h.joined, h.known, h.pending⟩
    rw [hbody, hrest]
    simp only [List.append_assoc]

theorem accounts_stepConnective (h : s.Accounts fields body) (he : s.expect = .connective)
    (hs : s.stepConnective method = .ok t) : t.Accounts fields body := by
  obtain ⟨j, after, hrest, rfl⟩ := Scan.stepConnective_ok hs
  obtain ⟨text, part, hspell, hpart, hbody⟩ := h.passed
  obtain ⟨rest, expect, current, join, clauses⟩ := s
  simp only at he hspell hpart hbody hrest
  subst he
  cases hpart with
  | @connective c part hk hc =>
    refine ⟨⟨_, [], spells_append hspell (spells_singleton (c := ⟨join, c⟩) hc), .field, ?_⟩,
      wellJoined_append h.joined h.pending, ?_, by simp [Scan.completed]⟩
    · rw [hbody, hrest]
      simp only [joinWord, List.append_assoc, List.nil_append]
    · intro d hd
      rcases List.mem_append.1 hd with hd | hd
      · exact h.known d hd
      · rw [List.mem_singleton.1 hd]
        exact hk

theorem accounts_step (h : s.Accounts fields body) (hs : s.step (.ofMap fields) method = .ok t) :
    t.Accounts fields body := by
  unfold Scan.step at hs
  split at hs
  · exact accounts_stepField h ‹_› hs
  · exact accounts_stepCondition h ‹_› hs
  · exact accounts_stepConnective h ‹_› hs

/-- Where the text ends in a predicate, all of the text spells that predicate's clauses. -/
theorem accounts_finish (h : s.Accounts fields body) (hr : s.rest = []) {p : Predicate}
    (hs : s.finish method = .ok p) :
    p.method = method ∧ p.clauses ≠ [] ∧ WellJoined p.clauses ∧
      (∀ c ∈ p.clauses, Known fields c.condition) ∧ Spells p.clauses body := by
  obtain ⟨text, part, hspell, hpart, hbody⟩ := h.passed
  unfold Scan.finish Scan.completed at hs
  cases hcur : s.current with
  | none => simp [hcur] at hs
  | some c =>
    rw [hcur] at hs hpart
    obtain rfl := Except.ok.inj hs
    obtain ⟨hk, hc⟩ := hpart.spells
    refine ⟨rfl, by simp, wellJoined_append h.joined h.pending, ?_, ?_⟩
    · intro d hd
      rcases List.mem_append.1 hd with hd | hd
      · exact h.known d hd
      · rw [List.mem_singleton.1 hd]
        exact hk
    · rw [hbody, hr, List.append_nil]
      exact spells_append hspell (spells_singleton (c := ⟨s.join, c⟩) hc)

theorem accounts_run (h : s.Accounts fields body) {p : Predicate}
    (hs : s.run (.ofMap fields) method = .ok p) :
    p.method = method ∧ p.clauses ≠ [] ∧ WellJoined p.clauses ∧
      (∀ c ∈ p.clauses, Known fields c.condition) ∧ Spells p.clauses body := by
  fun_induction Scan.run with
  | case1 s hr => exact accounts_finish h (by simpa using hr) hs
  | case2 s hr e he => cases hs
  | case3 s hr t ht ih => exact ih (accounts_step h ht) hs

/-- All of a query name that reads as a predicate is accounted for. -/
theorem accounts_parse {p : Predicate} (h : parse fields method = .ok p) :
    ∃ text, method.toList = findBy.toList ++ text ∧ p.method = method ∧ p.clauses ≠ [] ∧
      WellJoined p.clauses ∧ (∀ c ∈ p.clauses, Known fields c.condition) ∧
      Spells p.clauses text := by
  unfold parse parseWith at h
  split at h
  · rename_i ch text htext
    exact ⟨ch :: text, Text.after?_eq_some_iff.1 htext,
      accounts_run (accounts_start fields (ch :: text)) h⟩
  · cases h

theorem method_of_parse {p : Predicate} (h : parse fields method = .ok p) : p.method = method := by
  obtain ⟨-, -, hm, -⟩ := accounts_parse h
  exact hm

end Steps

/-- The reader accepts only its grammar and loses nothing: a query name that reads as a predicate is
`findBy` and a spelling of the predicate's clauses. There is at least one, exactly the first has no
word in front of it, and each is about a field of the map. -/
theorem parse_accepts_only_spellings {fields : FieldMap} {method : String} {p : Predicate}
    (h : parse fields method = .ok p) :
    p.method = method ∧ p.clauses ≠ [] ∧ WellJoined p.clauses ∧
      (∀ c ∈ p.clauses, (c.condition.field, c.condition.column) ∈ fields.entries) ∧
      ∃ text, Spells p.clauses text ∧ method.toList = findBy.toList ++ text := by
  unfold parse parseWith at h
  split at h
  · rename_i ch body hbody
    obtain ⟨hm, hne, hj, hk, hs⟩ := accounts_run (accounts_start fields (ch :: body)) h
    exact ⟨hm, hne, hj, hk, _, hs, Text.after?_eq_some_iff.1 hbody⟩
  · cases h

/-- A field that is capitalised to nothing is read where no other field stands. -/
theorem parse_accepts_only_spellings_nameless_field :
    let fields : FieldMap := .ofList [("_", "BLANK"), ("name", "NAME")]
    let clauses : List Clause :=
      [⟨none, ⟨"_", "BLANK", .isEqual, true⟩⟩, ⟨some .and, ⟨"name", "NAME", .isEqual, false⟩⟩]
    parse fields "findByNotAndName" = .ok ⟨"findByNotAndName", clauses⟩ ∧
      ∃ text, Spells clauses text ∧ "findByNotAndName".toList = findBy.toList ++ text := by
  intro fields clauses
  have hindex : FieldIndex.ofMap fields = [⟨"Name".toList, "name", "NAME"⟩, ⟨[], "_", "BLANK"⟩] := by
    cbv
  have hparse : parse fields "findByNotAndName" = .ok ⟨"findByNotAndName", clauses⟩ := by
    rw [parse, hindex, parseWith]
    refine Eq.trans (b := Scan.run _ _ { rest := "NotAndName".toList }) rfl ?_
    rw [Scan.run_step (by decide) rfl, Scan.run_step (by decide) rfl,
      Scan.run_step (by decide) rfl, Scan.run_step (by decide) rfl, Scan.run_nil rfl]
    rfl
  obtain ⟨-, -, -, -, h⟩ := parse_accepts_only_spellings hparse
  exact ⟨hparse, h⟩

end BeanKit.Query

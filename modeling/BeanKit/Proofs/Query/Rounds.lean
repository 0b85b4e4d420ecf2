import BeanKit.Proofs.Query.Diagnosis
import BeanKit.Proofs.Query.Reading
/-!
# How long the reader takes

`parse_rounds`: the reader comes to its answer in at most three rounds for each character behind
`findBy`. Two of its three steps may take nothing, also that of a field that is capitalised to
nothing, so the text that is left does not bound the rounds; `Scan.measure` does, which counts the part
that is expected as well.

In every round a clause is under construction exactly where its field has been read, and a connective
waits exactly where it joins something. So a condition always has its field, and a connective completes
a clause without losing one.
-/

namespace BeanKit.Query

/-! ## Rounds -/

/-- From `s` on the reader takes one step in each of the states, in this order, and then answers. -/
inductive Scan.Rounds (index : FieldIndex) (method : String) :
    Scan → List Scan → Except Error Predicate → Prop
  | finish {s : Scan} : s.rest = [] → Rounds index method s [] (s.finish method)
  | stuck {s : Scan} {e : Error} : s.rest ≠ [] → s.step index method = .error e →
      Rounds index method s [s] (.error e)
  | step {s t : Scan} {states : List Scan} {answer : Except Error Predicate} : s.rest ≠ [] →
      s.step index method = .ok t → Rounds index method t states answer →
      Rounds index method s (s :: states) answer

section Rounds

variable {index : FieldIndex} {method : String} {s : Scan} {states : List Scan}
  {answer : Except Error Predicate}

theorem exists_rounds_run (index : FieldIndex) (method : String) (s : Scan) :
    ∃ states, s.Rounds index method states (s.run index method) := by
  fun_induction Scan.run with
  | case1 s hr => exact ⟨[], .finish (by simpa using hr)⟩
  | case2 s hr e he => exact ⟨[s], .stuck (by simpa using hr) he⟩
  | case3 s hr t ht ih =>
    obtain ⟨states, hstates⟩ := ih
    exact ⟨s :: states, .step (by simpa using hr) ht hstates⟩

theorem Scan.three_le_measure (h : s.rest ≠ []) : 3 ≤ s.measure := by
  have hlength := List.length_pos_iff.2 h
  unfold Scan.measure
  omega

/-- The last round is taken with text left, so the measure does not get to zero. -/
theorem Scan.Rounds.length_le (h : s.Rounds index method states answer) :
    states.length ≤ s.measure - 2 := by
  induction h with
  | finish => exact Nat.zero_le _
  | stuck hr =>
    have hmeasure := Scan.three_le_measure hr
    simp only [List.length_singleton]
    omega
  | step hr hs _ ih =>
    have hmeasure := Scan.three_le_measure hr
    have hless := Scan.measure_step_lt hs
    simp only [List.length_cons]
    omega

/-- What has been passed is accounted for in every round. -/
theorem Scan.Rounds.accounts {fields : FieldMap} {body : List Char}
    (h : s.Rounds (.ofMap fields) method states answer) (ha : s.Accounts fields body) :
    ∀ t ∈ states, t.Accounts fields body := by
  induction h with
  | finish => simp
  | stuck => exact List.forall_mem_singleton.2 ha
  | step _ hs _ ih => exact List.forall_mem_cons.2 ⟨ha, ih (accounts_step ha hs)⟩

end Rounds

/-! ## Where the reader stands in a round -/

/-- What holds of the reader in a round. -/
structure Scan.Orderly (index : FieldIndex) (method : String) (s : Scan) : Prop where
  /-- Only where a field is expected, no clause is under construction. -/
  building : s.current = none ↔ s.expect = .field
  /-- A connective waits exactly where there are clauses in front of it. -/
  pending : s.join = none ↔ s.clauses = []
  /-- What is said of a field can always be read. -/
  condition : s.expect = .condition → ∃ t, s.step index method = .ok t
  /-- A connective puts the clause in front of it behind the others, with the connective that was
  waiting, and is itself the next one to wait. -/
  connective : s.expect = .connective → ∀ t, s.step index method = .ok t → ∃ c j,
    s.current = some c ∧ t.clauses = s.clauses ++ [⟨s.join, c⟩] ∧ t.join = some j

section Orderly

variable {fields : FieldMap} {body : List Char} {s : Scan}

theorem Scan.Accounts.current_eq_none_iff (h : s.Accounts fields body) :
    s.current = none ↔ s.expect = .field := by
  obtain ⟨text, part, -, hpart, -⟩ := h.passed
  generalize s.expect = expect, s.current = current at hpart ⊢
  cases hpart <;> simp

theorem Scan.stepCondition_of_current {c : Condition} (h : s.current = some c) (method : String) :
    ∃ t, s.stepCondition method = .ok t := by
  simp only [Scan.stepCondition, h]
  exact ⟨_, rfl⟩

theorem Scan.Accounts.orderly (h : s.Accounts fields body) (index : FieldIndex) (method : String) :
    s.Orderly index method := by
  have hbuilding := h.current_eq_none_iff
  have hcurrent (he : s.expect ≠ .field) : ∃ c, s.current = some c :=
    Option.ne_none_iff_exists'.1 (mt hbuilding.1 he)
  refine ⟨hbuilding, h.pending, fun he => ?_, fun he t ht => ?_⟩
  · obtain ⟨c, hc⟩ := hcurrent (by simp [he])
    obtain ⟨t, ht⟩ := Scan.stepCondition_of_current hc method
    exact ⟨t, by rw [Scan.step, he, ht]⟩
  · obtain ⟨c, hc⟩ := hcurrent (by simp [he])
    rw [Scan.step, he] at ht
    obtain ⟨j, after, -, rfl⟩ := Scan.stepConnective_ok ht
    exact ⟨c, j, hc, by simp only [Scan.completed, hc], rfl⟩

theorem parse_ne_missingField (fields : FieldMap) (method name : String) (position : Nat) :
    parse fields method ≠ .error (.misplaced name position .missingField) := by
  intro h
  generalize he : Error.misplaced name position .missingField = e at h
  cases diagnosed_of_parse h <;> cases he

end Orderly

/-- The reader answers after at most three rounds for each character behind `findBy`, whatever the
fields are called. In each of them it stands where the grammar lets it stand: no clause and no
connective is lost, and a condition always has its field, so that no answer misses one. -/
theorem parse_rounds (fields : FieldMap) {method : String} {body : List Char}
    (hm : method.toList = findBy.toList ++ body) (hne : body ≠ []) :
    ∃ states, Scan.Rounds (.ofMap fields) method { rest := body } states (parse fields method) ∧
      states.length ≤ 3 * body.length ∧ (∀ s ∈ states, s.Orderly (.ofMap fields) method) ∧
      ∀ name position, parse fields method ≠ .error (.misplaced name position .missingField) := by
  obtain ⟨states, hstates⟩ := exists_rounds_run (.ofMap fields) method { rest := body }
  rw [← parse_of_toList hm hne] at hstates
  have hlength := hstates.length_le
  simp only [Scan.measure, Expectation.rank, Nat.add_sub_cancel] at hlength
  refine ⟨states, hstates, hlength, fun s hs => ?_, parse_ne_missingField fields method⟩
  exact (hstates.accounts (accounts_start fields body) s hs).orderly _ _

/-- With a field that is capitalised to nothing there are three rounds for one character. -/
theorem parse_rounds_nameless_field :
    let fields : FieldMap := .ofList [("_", "BLANK")]
    let blank : Condition := { field := "_", column := "BLANK" }
    "findByX".toList = findBy.toList ++ ['X'] ∧
      Scan.Rounds (.ofMap fields) "findByX" { rest := ['X'] }
        [{ rest := ['X'] }, { rest := ['X'], expect := .condition, current := some blank },
          { rest := ['X'], expect := .connective, current := some blank }]
        (.error (.misplaced "findByX" 6 .noConnective)) ∧
      ∃ states, Scan.Rounds (.ofMap fields) "findByX" { rest := ['X'] } states
          (parse fields "findByX") ∧
        states.length ≤ 3 ∧ (∀ s ∈ states, s.Orderly (.ofMap fields) "findByX") ∧
        ∀ name position, parse fields "findByX" ≠ .error (.misplaced name position .missingField) := by
  intro fields blank
  have hname : "findByX".toList = findBy.toList ++ ['X'] := by decide
  have hleft : ['X'] ≠ [] := List.cons_ne_nil _ _
  have hindex : FieldIndex.ofMap fields = [⟨[], "_", "BLANK"⟩] := by cbv
  refine ⟨hname, ?_, parse_rounds fields hname hleft⟩
  rw [hindex]
  exact .step hleft rfl (.step hleft rfl (.stuck hleft rfl))

end BeanKit.Query

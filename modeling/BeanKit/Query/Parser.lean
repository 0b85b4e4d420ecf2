import BeanKit.Query.FieldIndex
import BeanKit.Query.Predicate
/-!
# Reading a query name

After `findBy` come conditions with connectives between them; a condition is a field, perhaps the
word for negation, perhaps a comparison. The reader is a machine that takes one of these parts at a
time. Two of its three kinds of step may take nothing, so what gets smaller from step to step is the
text that is left together with the part that is expected next (`Scan.measure_step_lt`).
-/

namespace BeanKit.Query

/-- The part that the reader expects next. -/
inductive Expectation where
  | field
  | condition
  | connective
  deriving Repr, DecidableEq

/-- How many parts may still come without a character between them. -/
def Expectation.rank : Expectation → Nat
  | .field => 2
  | .condition => 1
  | .connective => 0

/-- Where the reader stands: the text left, the part expected, the condition being read, the
connective read in front of it, and the clauses that are complete. -/
structure Scan where
  rest : List Char
  expect : Expectation := .field
  current : Option Condition := none
  join : Option Connective := none
  clauses : List Clause := []
  deriving Repr, DecidableEq

/-- Takes the word for negation, unless it is the start of the comparison for inequality. -/
def takeNegation (text : List Char) : Bool × List Char :=
  match Text.after? notWord.toList text with
  | some after =>
    if Text.startsWith Comparison.notEqual.word.toList text then (false, text) else (true, after)
  | none => (false, text)

/-- Takes a comparison; without one, the condition is an equality. -/
def takeComparison (text : List Char) : Comparison × List Char :=
  (comparison? text).getD (.isEqual, text)

namespace Scan

/-- The quantity that every step makes smaller. -/
def measure (s : Scan) : Nat := 3 * s.rest.length + s.expect.rank

/-- How many characters of the method name have been read. -/
def position (method : String) (s : Scan) : Nat := method.length - s.rest.length

/-- The clauses together with the one being read. -/
def completed (s : Scan) : List Clause :=
  match s.current with
  | some c => s.clauses ++ [⟨s.join, c⟩]
  | none => s.clauses

/-- Reads a field. -/
def stepField (index : FieldIndex) (method : String) (s : Scan) : Except Error Scan :=
  match index.match? s.rest with
  | some (c, after) =>
    .ok { s with
      rest := after
      expect := .condition
      current := some { field := c.field, column := c.column } }
  | none =>
    if index.isMisplaced s.rest then .error (.misplaced method (s.position method) .connective)
    else .error (.unknownField method (s.position method))

/-- Reads what a condition says of its field. -/
def stepCondition (method : String) (s : Scan) : Except Error Scan :=
  match s.current with
  | none => .error (.misplaced method (s.position method) .missingField)
  | some c =>
    let negation := takeNegation s.rest
    let comparison := takeComparison negation.2
    .ok { s with
      rest := comparison.2
      expect := .connective
      current := some { c with comparison := comparison.1, negated := negation.1 } }

/-- Reads a connective, which completes the clause in front of it. -/
def stepConnective (method : String) (s : Scan) : Except Error Scan :=
  match connective? s.rest with
  | none => .error (.misplaced method (s.position method) .noConnective)
  | some (j, after) =>
    .ok { rest := after, expect := .field, current := none, join := some j, clauses := s.completed }

/-- Reads the next part. -/
def step (index : FieldIndex) (method : String) (s : Scan) : Except Error Scan :=
  match s.expect with
  | .field => s.stepField index method
  | .condition => s.stepCondition method
  | .connective => s.stepConnective method

/-- What the reader answers when no text is left: a connective must not stand last. -/
def finish (method : String) (s : Scan) : Except Error Predicate :=
  match s.current with
  | some _ => .ok ⟨method, s.completed⟩
  | none => .error (.misplaced method (s.position method) .danglingConnective)

end Scan

theorem length_matchWord? {α : Type} {word : α → String} {words : List α} {text after : List Char}
    {a : α} (h : matchWord? word words text = some (a, after)) :
    (word a).toList.length + after.length = text.length ∧ a ∈ words := by
  induction words with
  | nil => simp [matchWord?] at h
  | cons b words ih =>
    cases hb : Text.after? (word b).toList text with
    | none => exact (ih (by simpa [matchWord?, hb] using h)).imp_right (List.mem_cons_of_mem _)
    | some r =>
      obtain ⟨rfl, rfl⟩ : b = a ∧ r = after := by simpa [matchWord?, hb] using h
      exact ⟨Text.length_of_after? hb, List.mem_cons_self⟩

theorem length_match? {index : FieldIndex} {text after : List Char} {c : Candidate}
    (h : index.match? text = some (c, after)) : c.spelling.length + after.length = text.length := by
  induction index with
  | nil => simp [FieldIndex.match?] at h
  | cons b index ih =>
    cases hb : Text.after? b.spelling text with
    | none => exact ih (by simpa [FieldIndex.match?, hb] using h)
    | some r =>
      obtain ⟨rfl, rfl⟩ : b = c ∧ r = after := by simpa [FieldIndex.match?, hb] using h
      exact Text.length_of_after? hb

theorem length_connective? {text after : List Char} {j : Connective}
    (h : connective? text = some (j, after)) : after.length + 2 ≤ text.length := by
  have hl := (length_matchWord? h).1
  have hw : 2 ≤ j.word.toList.length := by cases j <;> decide
  omega

theorem length_takeNegation (text : List Char) : (takeNegation text).2.length ≤ text.length := by
  cases h : Text.after? notWord.toList text with
  | none => simp [takeNegation, h]
  | some after =>
    have := Text.length_of_after? h
    simp only [takeNegation, h]
    split
    · exact Nat.le_refl _
    · simp only
      omega

theorem length_takeComparison (text : List Char) :
    (takeComparison text).2.length ≤ text.length := by
  cases h : comparison? text with
  | none => simp [takeComparison, h]
  | some p =>
    have := (length_matchWord? (show matchWord? _ _ text = some (p.1, p.2) from h)).1
    simp only [takeComparison, h, Option.getD_some]
    omega

/-- Every step leaves less to do. -/
theorem Scan.measure_step_lt {index : FieldIndex} {method : String} {s t : Scan}
    (h : s.step index method = .ok t) : t.measure < s.measure := by
  cases he : s.expect with
  | field =>
    cases hm : index.match? s.rest with
    | none =>
      simp only [Scan.step, he, Scan.stepField, hm] at h
      split at h <;> simp at h
    | some p =>
      have hl := length_match? (show index.match? s.rest = some (p.1, p.2) from hm)
      simp only [Scan.step, he, Scan.stepField, hm, Except.ok.injEq] at h
      subst h
      simp only [Scan.measure, he, Expectation.rank]
      omega
  | condition =>
    cases hc : s.current with
    | none => simp [Scan.step, he, Scan.stepCondition, hc] at h
    | some c =>
      have h1 := length_takeNegation s.rest
      have h2 := length_takeComparison (takeNegation s.rest).2
      simp only [Scan.step, he, Scan.stepCondition, hc, Except.ok.injEq] at h
      subst h
      simp only [Scan.measure, he, Expectation.rank]
      omega
  | connective =>
    cases hm : connective? s.rest with
    | none => simp [Scan.step, he, Scan.stepConnective, hm] at h
    | some p =>
      have hl := length_connective? (show connective? s.rest = some (p.1, p.2) from hm)
      simp only [Scan.step, he, Scan.stepConnective, hm, Except.ok.injEq] at h
      subst h
      simp only [Scan.measure, he, Expectation.rank]
      omega

/-- Why the reader cannot go on from where it stands, with the error that says so. -/
inductive Scan.Stuck (index : FieldIndex) (method : String) (s : Scan) : Error → Prop where
  | connective (expect : s.expect = .field) (field : index.match? s.rest = none)
      (misplaced : index.isMisplaced s.rest = true) :
    Stuck index method s (.misplaced method (s.position method) .connective)
  | unknownField (expect : s.expect = .field) (field : index.match? s.rest = none)
      (misplaced : index.isMisplaced s.rest = false) :
    Stuck index method s (.unknownField method (s.position method))
  | missingField (expect : s.expect = .condition) (current : s.current = none) :
    Stuck index method s (.misplaced method (s.position method) .missingField)
  | noConnective (expect : s.expect = .connective) (connective : connective? s.rest = none) :
    Stuck index method s (.misplaced method (s.position method) .noConnective)

theorem Scan.stuck_of_step {index : FieldIndex} {method : String} {s : Scan} {e : Error}
    (h : s.step index method = .error e) : s.Stuck index method e := by
  cases he : s.expect with
  | field =>
    simp only [Scan.step, he, Scan.stepField] at h
    split at h
    · cases h
    · split at h
      · cases h
        exact .connective he ‹_› ‹_›
      · cases h
        exact .unknownField he ‹_› (Bool.eq_false_iff.2 ‹_›)
  | condition =>
    simp only [Scan.step, he, Scan.stepCondition] at h
    split at h
    · cases h
      exact .missingField he ‹_›
    · cases h
  | connective =>
    simp only [Scan.step, he, Scan.stepConnective] at h
    split at h
    · cases h
      exact .noConnective he ‹_›
    · cases h

/-- Reads part after part until no text is left. -/
def Scan.run (index : FieldIndex) (method : String) (s : Scan) : Except Error Predicate :=
  if s.rest.isEmpty then s.finish method
  else
    match _h : s.step index method with
    | .error e => .error e
    | .ok t => t.run index method
termination_by s.measure
decreasing_by exact Scan.measure_step_lt _h

theorem Scan.run_nil {index : FieldIndex} {method : String} {s : Scan} (h : s.rest = []) :
    s.run index method = s.finish method := by
  rw [Scan.run]
  simp [h]

theorem Scan.run_step {index : FieldIndex} {method : String} {s t : Scan} (hr : s.rest ≠ [])
    (h : s.step index method = .ok t) : s.run index method = t.run index method := by
  rw [Scan.run, if_neg (by simpa using hr)]
  split
  · rename_i e he
    rw [h] at he
    cases he
  · rename_i u hu
    rw [h] at hu
    cases hu
    rfl

theorem Scan.run_stuck {index : FieldIndex} {method : String} {s : Scan} {e : Error}
    (hr : s.rest ≠ []) (h : s.step index method = .error e) : s.run index method = .error e := by
  rw [Scan.run, if_neg (by simpa using hr)]
  split
  · rename_i e' he
    rw [h] at he
    cases he
    rfl
  · rename_i t ht
    rw [h] at ht
    cases ht

/-- Reads a query name over an index of fields. -/
def parseWith (index : FieldIndex) (method : String) : Except Error Predicate :=
  match Text.after? findBy.toList method.toList with
  | some (c :: body) => Scan.run index method { rest := c :: body }
  | _ => .error (.invalidName method)

/-- Reads a query name over the fields of an entity. -/
def parse (fields : FieldMap) (method : String) : Except Error Predicate :=
  parseWith (.ofMap fields) method

/-- The text of the predicate that a query name says of the given values. An error in the name
comes before a missing value. -/
def compile (fields : FieldMap) (method : String) (values : List Value) : Except Error String :=
  (parse fields method).bind (·.render values)

end BeanKit.Query

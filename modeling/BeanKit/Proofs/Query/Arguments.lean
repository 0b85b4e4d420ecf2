import BeanKit.Proofs.Query.Acceptance
import BeanKit.Proofs.Query.Reading
import BeanKit.Proofs.Text.Cutting
import BeanKit.Query.Statement
/-!
# What a query does with the values of a call

`compile_takes_arguments`: every clause takes one value, in order, and values beyond the last clause
are passed over. A call with too few of them is refused for the first clause that goes without. The
values stand in the predicate between quotes, so as long as they have no quotes of their own, they
can be read back from it, whatever the columns are called.
-/

namespace BeanKit.Query

/-! ## One value for each clause -/

section Render

variable {clauses : List Clause} {values : List Value} (method : String)

theorem renderFrom_of_length_le (h : clauses.length ≤ values.length) (index : Nat) :
    Predicate.renderFrom method index clauses values =
      .ok (String.join (List.zipWith Clause.render clauses values)) := by
  induction clauses generalizing values index with
  | nil => rfl
  | cons c clauses ih =>
    cases values with
    | nil => cases h
    | cons v values =>
      rw [Predicate.renderFrom, ih (Nat.le_of_succ_le_succ h), List.zipWith_cons_cons,
        String.join_cons]
      rfl

/-- The clause that goes without a value is the first one behind those that have one. -/
theorem renderFrom_of_length_lt (h : values.length < clauses.length) (index : Nat) :
    Predicate.renderFrom method index clauses values =
      .error (.insufficientArguments method clauses[values.length].condition.field
        (index + values.length)) := by
  induction clauses generalizing values index with
  | nil => cases h
  | cons c clauses ih =>
    cases values with
    | nil => rfl
    | cons v values =>
      rw [Predicate.renderFrom, ih (Nat.lt_of_succ_lt_succ h), Nat.add_right_comm]
      rfl

end Render

section Compile

variable {fields : FieldMap} {method : String} {p : Predicate} {values : List Value}

theorem compile_of_length_le (hp : parse fields method = .ok p)
    (h : p.clauses.length ≤ values.length) : compile fields method values =
      .ok (String.join (List.zipWith Clause.render p.clauses values)) := by
  rw [compile, hp]
  exact renderFrom_of_length_le _ h 0

theorem compile_of_length_lt (hp : parse fields method = .ok p)
    (h : values.length < p.clauses.length) : compile fields method values =
      .error (.insufficientArguments method p.clauses[values.length].condition.field
        values.length) := by
  rw [compile, hp, ← method_of_parse hp, Except.bind, Predicate.render,
    renderFrom_of_length_lt _ h, Nat.zero_add]

theorem compile_isOk_iff (hp : parse fields method = .ok p) :
    (∃ text, compile fields method values = .ok text) ↔ p.clauses.length ≤ values.length := by
  constructor
  · rintro ⟨text, htext⟩
    apply Nat.le_of_not_lt
    intro hlt
    rw [compile_of_length_lt hp hlt] at htext
    cases htext
  · intro h
    exact ⟨_, compile_of_length_le hp h⟩

theorem compile_take (hp : parse fields method = .ok p) (values : List Value) :
    compile fields method values = compile fields method (values.take p.clauses.length) := by
  rcases Nat.lt_or_ge values.length p.clauses.length with hlt | hle
  · rw [List.take_of_length_le (Nat.le_of_lt hlt)]
  · have htake : p.clauses.length ≤ (values.take p.clauses.length).length := by
      rw [List.length_take]
      omega
    have hzip : (List.zipWith Clause.render p.clauses values).take p.clauses.length =
        List.zipWith Clause.render (p.clauses.take p.clauses.length)
          (values.take p.clauses.length) := List.take_zipWith
    rw [List.take_length, List.take_of_length_le (by simp)] at hzip
    rw [compile_of_length_le hp hle, compile_of_length_le hp htake, hzip]

end Compile

/-! ## The values in the text -/

/-- A text without quotes, which the quote behind it ends. -/
def Unquoted (text : String) : Prop := '\'' ∉ text.toList

instance (text : String) : Decidable (Unquoted text) :=
  inferInstanceAs (Decidable ('\'' ∉ text.toList))

theorem quoted_append_inj {text text' : String} {rest rest' : List Char} (ht : Unquoted text)
    (ht' : Unquoted text') (h : (quoted text).toList ++ rest = (quoted text').toList ++ rest') :
    text = text' ∧ rest = rest' := by
  simp only [quoted, String.toList_append, List.append_assoc, List.append_cancel_left_eq] at h
  obtain ⟨htext, hrest⟩ := Text.append_cons_inj_of_not_mem ht ht' h
  exact ⟨String.toList_inj.1 htext, hrest⟩

/-- What stands in front of the value of a clause. -/
def Clause.opening (c : Clause) : String :=
  (match c.join with
    | some j => " " ++ j.operator
    | none => "") ++ (if c.condition.negated then " NOT" else "") ++ " " ++ c.condition.column ++ " "
    ++ c.condition.comparison.operator ++ " "

theorem Clause.render_eq (c : Clause) (v : Value) : c.render v = c.opening ++ quoted v.render := by
  rw [← String.toList_inj]
  simp only [Clause.render, Condition.render, Clause.opening, quoted, String.toList_append,
    List.append_assoc]
  rfl

/-- The induction is on the clauses: in front of a value the texts are the same, and its quotes hold
no other ones. -/
theorem map_render_eq_of_text {clauses : List Clause} {values others : List Value}
    (h : clauses.length ≤ values.length) (h' : clauses.length ≤ others.length)
    (hq : ∀ v ∈ values.take clauses.length, Unquoted v.render)
    (hq' : ∀ v ∈ others.take clauses.length, Unquoted v.render)
    (he : String.join (List.zipWith Clause.render clauses values) =
      String.join (List.zipWith Clause.render clauses others)) :
    (values.take clauses.length).map Value.render =
      (others.take clauses.length).map Value.render := by
  induction clauses generalizing values others with
  | nil => rfl
  | cons c clauses ih =>
    obtain ⟨v, values, rfl⟩ := List.exists_cons_of_length_pos (Nat.lt_of_lt_of_le (by simp) h)
    obtain ⟨w, others, rfl⟩ := List.exists_cons_of_length_pos (Nat.lt_of_lt_of_le (by simp) h')
    rw [List.length_cons, List.take_succ_cons, List.forall_mem_cons] at hq hq'
    rw [← String.toList_inj, List.zipWith_cons_cons, List.zipWith_cons_cons, String.join_cons,
      String.join_cons, Clause.render_eq, Clause.render_eq] at he
    simp only [String.toList_append, List.append_assoc, List.append_cancel_left_eq] at he
    obtain ⟨hvalue, hrest⟩ := quoted_append_inj hq.1 hq'.1 he
    rw [List.length_cons, List.take_succ_cons, List.take_succ_cons, List.map_cons, List.map_cons,
      hvalue, ih (Nat.le_of_succ_le_succ h) (Nat.le_of_succ_le_succ h') hq.2 hq'.2
        (String.toList_inj.1 hrest)]

/-- An error in the name comes before any missing value. Otherwise a call is answered exactly where
there is a value for each clause; it is refused for the first clause without one; values beyond the
last clause change nothing; and the text of the predicate gives back the texts of its values. -/
theorem compile_takes_arguments (fields : FieldMap) (method : String) :
    (∀ e, parse fields method = .error e →
      ∀ values, compile fields method values = .error e) ∧
    ∀ p, parse fields method = .ok p →
      (∀ values, (∃ text, compile fields method values = .ok text) ↔
        p.clauses.length ≤ values.length) ∧
      (∀ (values : List Value) (h : values.length < p.clauses.length),
        compile fields method values = .error (.insufficientArguments method
          p.clauses[values.length].condition.field values.length)) ∧
      (∀ values, compile fields method values =
        compile fields method (values.take p.clauses.length)) ∧
      ∀ values others : List Value, p.clauses.length ≤ values.length →
        p.clauses.length ≤ others.length →
        (∀ v ∈ values.take p.clauses.length, Unquoted v.render) →
        (∀ v ∈ others.take p.clauses.length, Unquoted v.render) →
        compile fields method values = compile fields method others →
          (values.take p.clauses.length).map Value.render =
            (others.take p.clauses.length).map Value.render := by
  refine ⟨fun e he values => by rw [compile, he]; rfl, fun p hp => ?_⟩
  refine ⟨fun values => compile_isOk_iff hp, fun values h => compile_of_length_lt hp h,
    compile_take hp, fun values others h h' hq hq' he => ?_⟩
  rw [compile_of_length_le hp h, compile_of_length_le hp h', Except.ok.injEq] at he
  exact map_render_eq_of_text h h' hq hq' he

/-- Two clauses: calls with one value, with two, and with one too many. -/
theorem compile_takes_arguments_two_clauses :
    let fields : FieldMap := .ofList [("name", "NAME"), ("age", "AGE")]
    compile fields "findByNameOrAge" [.text "x"] =
        .error (.insufficientArguments "findByNameOrAge" "age" 1) ∧
      (∃ text, compile fields "findByNameOrAge" [.text "x", .int 7] = .ok text) ∧
      compile fields "findByNameOrAge" [.text "x", .int 7, .null] =
        compile fields "findByNameOrAge" [.text "x", .int 7] ∧
      (∀ name, Unquoted name → compile fields "findByNameOrAge" [.text name, .int 7] =
        compile fields "findByNameOrAge" [.text "x", .int 7] → name = "x") ∧
      compile fields "findByNameOr" [] =
        .error (.misplaced "findByNameOr" 12 .danglingConnective) := by
  intro fields
  have hindex : FieldIndex.ofMap fields =
      [⟨"Name".toList, "name", "NAME"⟩, ⟨"Age".toList, "age", "AGE"⟩] := by cbv
  have hparse : parse fields "findByNameOrAge" = .ok ⟨"findByNameOrAge",
      [⟨none, ⟨"name", "NAME", .isEqual, false⟩⟩,
       ⟨some .or, ⟨"age", "AGE", .isEqual, false⟩⟩]⟩ := by
    have hname : "findByNameOrAge".toList = findBy.toList ++ "NameOrAge".toList := by decide
    rw [parse_of_toList hname (by decide), hindex, Scan.run_step (by decide) rfl,
      Scan.run_step (by decide) rfl, Scan.run_step (by decide) rfl, Scan.run_step (by decide) rfl,
      Scan.run_nil rfl]
    rfl
  have hdangling : parse fields "findByNameOr" =
      .error (.misplaced "findByNameOr" 12 .danglingConnective) := by
    have hname : "findByNameOr".toList = findBy.toList ++ "NameOr".toList := by decide
    rw [parse_of_toList hname (by decide), hindex, Scan.run_step (by decide) rfl,
      Scan.run_step (by decide) rfl, Scan.run_step (by decide) rfl, Scan.run_nil rfl]
    rfl
  obtain ⟨hok, hmissing, htake, hdetermined⟩ :=
    (compile_takes_arguments fields "findByNameOrAge").2 _ hparse
  refine ⟨hmissing [.text "x"] (by decide), (hok _).2 (by decide), htake _, ?_,
    (compile_takes_arguments fields "findByNameOr").1 _ hdangling []⟩
  intro name hname he
  have hrenders := hdetermined _ _ (by simp) (by simp) (by simpa using ⟨hname, by decide⟩)
    (by decide) he
  exact (List.cons.inj hrenders).1

end BeanKit.Query

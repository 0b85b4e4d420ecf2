import BeanKit.Proofs.Query.Diagnosis
import BeanKit.Proofs.Query.Reading
/-!
# The words between clauses

`parse_misplaced_separator`: where no field can be taken for a word of the grammar, a connective too
many, one that stands last, and one that is missing are refused at the place where they stand. What
is right in front of that place is read as it would be anywhere else, so `run_of_spells_before`
takes the reader to the fault, whatever the faulty text is.

`parse_greater_or`: behind `Greater` and `Less`, `Or` joins the next clause, unless the longer
comparison can be read there, which always comes first.
-/

namespace BeanKit.Query

open Naming (capitalizeChars)

/-! ## Fields that are no words -/

/-- The words that the grammar has behind a field. `Equal` goes on with `Not` and with `Or`. -/
def reservedWords : List String := ["And", "Or", "Not", "Equal", "Greater", "Less", "IsEqual"]

/-- Field names that can be told apart from each other and from the words of the grammar. -/
structure Unmistakable (fields : FieldMap) : Prop extends Unambiguous fields where
  clear : ∀ f ∈ fields.keys, ∀ word ∈ reservedWords,
    ¬ capitalizeChars f.toList <+: word.toList ∧ ¬ word.toList <+: capitalizeChars f.toList

/-- `text` spells clauses about fields of the map. -/
structure Writes (fields : FieldMap) (clauses : List Clause) (text : List Char) : Prop where
  joined : WellJoined clauses
  known : ∀ c ∈ clauses, Known fields c.condition
  spells : Spells clauses text

section Words

variable {fields : FieldMap} {f : String}

/-- Nothing that starts with a word of the grammar stands where a field does. -/
theorem Unmistakable.not_prefix (hm : Unmistakable fields) (hf : f ∈ fields.keys) (word : String)
    (hw : word ∈ reservedWords) {longer : List Char} (hl : word.toList <+: longer)
    (text : List Char) : ¬ longer <+: capitalizeChars f.toList ++ text := by
  intro h
  obtain ⟨hfield, hword⟩ := hm.clear f hf word hw
  rcases List.prefix_or_prefix_of_prefix (hl.trans h) (List.prefix_append _ text) with h | h
  · exact hword h
  · exact hfield h

/-- A field closes every condition in front of it. -/
theorem Unmistakable.closes_field (hm : Unmistakable fields) (hf : f ∈ fields.keys)
    (text : List Char) (k : Comparison) : Closes k (capitalizeChars f.toList ++ text) where
  negation := hm.not_prefix hf "Not" (by decide) (by decide) text
  comparison k' := by
    cases k' with
    | greaterOrEqual | greater =>
      exact hm.not_prefix hf "Greater" (by decide) (by decide) text
    | lessOrEqual | less =>
      exact hm.not_prefix hf "Less" (by decide) (by decide) text
    | notEqual => exact hm.not_prefix hf "Not" (by decide) (by decide) text
    | isEqual => exact hm.not_prefix hf "IsEqual" (by decide) (by decide) text
  equal := hm.not_prefix hf "Equal" (by decide) (by decide) text
  orEqual _ := hm.not_prefix hf "Or" (by decide) (by decide) text

theorem Unmistakable.not_startsWithConnective (hm : Unmistakable fields) (hf : f ∈ fields.keys)
    (text : List Char) : ¬ StartsWithConnective (capitalizeChars f.toList ++ text) := by
  rintro ⟨j, h⟩
  cases j with
  | and => exact hm.not_prefix hf "And" (by decide) (by decide) text h
  | or => exact hm.not_prefix hf "Or" (by decide) (by decide) text h

theorem Unmistakable.not_startsWithField (hm : Unmistakable fields) (j : Connective)
    (text : List Char) : ¬ StartsWithField fields (j.word.toList ++ text) := by
  rintro ⟨f, hf, h⟩
  have hword : j.word ∈ reservedWords := by cases j <;> decide
  obtain ⟨hfield, hword⟩ := hm.clear f hf _ hword
  rcases List.prefix_or_prefix_of_prefix h (List.prefix_append _ text) with h | h
  · exact hfield h
  · exact hword h

/-- What closes every condition halts the reader: no field runs into `Equal`. -/
theorem Unmistakable.halts (hm : Unmistakable fields) {text : List Char}
    (h : ∀ k, Closes k text) : Halts fields text where
  closes := h
  apart _ hf hp := absurd hp (hm.not_prefix hf "Equal" (by decide) List.prefix_rfl text)

theorem Unmistakable.halts_join (hm : Unmistakable fields) (j : Connective) {text : List Char}
    (h : ¬ "Equal".toList <+: text) : Halts fields (j.word.toList ++ text) := by
  refine hm.halts fun k => closes_of_boundary (.inr ⟨j, text, rfl⟩) fun _ hp => ?_
  cases j with
  | and => simp [Connective.word] at hp
  | or => exact h (by simpa [Connective.word] using hp)

theorem Unmistakable.not_swallows (hm : Unmistakable fields) (c : Clause) {d : Clause}
    (hd : Known fields d.condition) : ¬ Swallows c d := by
  rintro ⟨-, -, h⟩
  exact hm.not_prefix hd.mem_keys "Equal" (by decide) List.prefix_rfl [] (by rwa [List.append_nil])

end Words

/-! ## Faults behind clauses -/

/-- A query name is refused for what stands at a place in it. -/
def RefusedAt (fields : FieldMap) (text : List Char) (position : Nat) (what : Misplaced) : Prop :=
  parse fields (String.ofList (findBy.toList ++ text)) =
    .error (.misplaced (String.ofList (findBy.toList ++ text)) position what)

section Faults

variable {fields : FieldMap} {clauses : List Clause} {ctext dtext after : List Char} {s : Scan}

/-- A spelling is empty or starts with a field. -/
theorem Writes.startsWithField (hw : Writes fields clauses ctext) :
    ctext = [] ∨ StartsWithField fields ctext := by
  obtain ⟨hj, hk, hs⟩ := hw
  cases hs with
  | nil => exact .inl rfl
  | @cons c cs text rest hc _ =>
    obtain ⟨tail, -, rfl⟩ := hc
    refine .inr ⟨c.condition.field, (hk c List.mem_cons_self).mem_keys, ?_⟩
    rw [hj.1, joinWord, List.nil_append, List.append_assoc]
    exact List.prefix_append _ _

/-- The reader comes to what stands behind clauses, whatever that is. -/
theorem Writes.run (hw : Writes fields clauses ctext) (hm : Unmistakable fields)
    (hne : clauses ≠ []) (ha : Halts fields after) (method : String) :
    ∃ s : Scan, s.Behind clauses after ∧
      Scan.run (.ofMap fields) method { rest := ctext ++ after } = s.run (.ofMap fields) method := by
  have hchain : clauses.IsChain fun c d => ¬ Swallows c d :=
    (List.pairwise_of_forall_mem_list fun c _ d hd => hm.not_swallows c (hw.known d hd)).isChain
  exact (run_of_spells_before hm.toUnambiguous method ha hne hw.joined hw.known hchain
    hw.spells).2

/-- A connective that is out of place is refused where it stands. -/
theorem run_displaced {method : String} (he : s.expect = .field)
    (hf : ¬ StartsWithField fields s.rest) (hd : Displaced fields s.rest) :
    s.run (.ofMap fields) method =
      .error (.misplaced method (s.position method) .connective) := by
  have hr : s.rest ≠ [] := by
    obtain ⟨j, after, hj, -⟩ := hd
    rw [hj]
    exact j.word_append_ne_nil after
  refine Scan.run_stuck hr ?_
  simp only [Scan.step, he, Scan.stepField, match?_eq_none_iff.2 hf, isMisplaced_iff.2 hd, if_true]

theorem Scan.Behind.run_stuck (h : s.Behind clauses after) (hne : after ≠ [])
    (hc : ¬ StartsWithConnective after) (index : FieldIndex) (method : String) :
    s.run index method = .error (.misplaced method (s.position method) .noConnective) := by
  refine Scan.run_stuck (by rwa [h.rest]) ?_
  simp only [Scan.step, h.expect, Scan.stepConnective, h.rest, connective?_eq_none_iff.2 hc]

theorem displaced_of_writes (hw : Writes fields clauses dtext) (j : Connective) :
    Displaced fields (j.word.toList ++ dtext) :=
  ⟨j, dtext, rfl, hw.startsWithField.imp_right .inr⟩

/-- The place of a fault is what has been passed when the reader stops. -/
theorem refusedAt_of_run {text passed : List Char} (rest : List Char) {what : Misplaced}
    (ht : text ≠ []) (hs : findBy.toList ++ text = passed ++ rest)
    (hrun : ∀ method, ∃ s : Scan, s.rest = rest ∧
      Scan.run (.ofMap fields) method { rest := text } =
        .error (.misplaced method (s.position method) what)) :
    RefusedAt fields text passed.length what := by
  obtain ⟨s, hrest, hstop⟩ := hrun (String.ofList (findBy.toList ++ text))
  rw [RefusedAt, parse_eq_run fields ht, hstop, Scan.position_eq]
  rw [String.toList_ofList, hs, hrest]

/-- A connective in front of all clauses. -/
theorem refused_leading (hm : Unmistakable fields) (hd : Writes fields clauses dtext)
    (j : Connective) :
    RefusedAt fields (j.word.toList ++ dtext) findBy.toList.length .connective :=
  refusedAt_of_run _ (j.word_append_ne_nil dtext) rfl fun _ =>
    ⟨_, rfl, run_displaced rfl (hm.not_startsWithField j dtext) (displaced_of_writes hd j)⟩

/-- A connective behind another one. -/
theorem refused_doubled (hm : Unmistakable fields) (hne : clauses ≠ [])
    (hc : Writes fields clauses ctext) {others : List Clause} (hd : Writes fields others dtext)
    (j k : Connective) :
    RefusedAt fields (ctext ++ (j.word.toList ++ (k.word.toList ++ dtext)))
      (findBy.toList ++ (ctext ++ j.word.toList)).length .connective := by
  have hhalts : Halts fields (j.word.toList ++ (k.word.toList ++ dtext)) :=
    hm.halts_join j (by cases k <;> simp [Connective.word])
  have htext : ctext ++ (j.word.toList ++ (k.word.toList ++ dtext)) ≠ [] := fun h =>
    j.word_append_ne_nil _ (List.append_eq_nil_iff.1 h).2
  refine refusedAt_of_run (k.word.toList ++ dtext) htext (by simp only [List.append_assoc])
    fun method => ?_
  obtain ⟨s, hs, hrun⟩ := hc.run hm hne hhalts method
  refine ⟨{ rest := k.word.toList ++ dtext, join := some j, clauses }, rfl, ?_⟩
  rw [hrun, hs.run_join]
  exact run_displaced rfl (hm.not_startsWithField k dtext) (displaced_of_writes hd k)

/-- A connective that nothing follows. -/
theorem refused_trailing (hm : Unmistakable fields) (hne : clauses ≠ [])
    (hc : Writes fields clauses ctext) (j : Connective) :
    RefusedAt fields (ctext ++ j.word.toList)
      (findBy.toList ++ (ctext ++ j.word.toList)).length .danglingConnective := by
  have hhalts : Halts fields (j.word.toList ++ []) := hm.halts_join j (by simp)
  refine refusedAt_of_run [] ?_ (List.append_nil _).symm fun method => ?_
  · simpa using fun _ => j.word_append_ne_nil []
  · obtain ⟨s, hs, hrun⟩ := hc.run hm hne hhalts method
    refine ⟨{ rest := [], join := some j, clauses }, rfl, ?_⟩
    rw [List.append_nil] at hrun
    rw [hrun, hs.run_join, Scan.run_nil rfl]
    rfl

/-- A field right behind a clause. -/
theorem refused_unseparated (hm : Unmistakable fields) (hne : clauses ≠ [])
    (hc : Writes fields clauses ctext) {f : String} (hf : f ∈ fields.keys) (text : List Char) :
    RefusedAt fields (ctext ++ (capitalizeChars f.toList ++ text))
      (findBy.toList ++ ctext).length .noConnective := by
  have hhalts : Halts fields (capitalizeChars f.toList ++ text) :=
    hm.halts fun k => hm.closes_field hf text k
  have hfield : capitalizeChars f.toList ++ text ≠ [] := by simp [hm.nonempty f hf]
  refine refusedAt_of_run (capitalizeChars f.toList ++ text) (by simp [hm.nonempty f hf])
    (List.append_assoc ..).symm fun method => ?_
  obtain ⟨s, hs, hrun⟩ := hc.run hm hne hhalts method
  refine ⟨s, hs.rest, ?_⟩
  rw [hrun, hs.run_stuck hfield (hm.not_startsWithConnective hf text)]

end Faults

/-- A connective in front of the first clause, behind another connective, or behind the last clause,
and a clause that no connective joins, are refused at the character where they start; behind the
last clause that is the end of the name. -/
theorem parse_misplaced_separator {fields : FieldMap} (hm : Unmistakable fields)
    {clauses others : List Clause} {ctext dtext : List Char} (hne : clauses ≠ [])
    (hc : Writes fields clauses ctext) (hd : Writes fields others dtext) :
    (∀ j : Connective, RefusedAt fields (j.word.toList ++ dtext) 6 .connective) ∧
    (∀ j k : Connective, RefusedAt fields (ctext ++ (j.word.toList ++ (k.word.toList ++ dtext)))
      (6 + ctext.length + j.word.length) .connective) ∧
    (∀ j : Connective, RefusedAt fields (ctext ++ j.word.toList)
      (String.ofList (findBy.toList ++ (ctext ++ j.word.toList))).length .danglingConnective) ∧
    ∀ f ∈ fields.keys, ∀ text, RefusedAt fields (ctext ++ (capitalizeChars f.toList ++ text))
      (6 + ctext.length) .noConnective := by
  have hlength : findBy.toList.length = 6 := by decide
  refine ⟨fun j => refused_leading hm hd j, fun j k => ?_, fun j => ?_, fun f hf text => ?_⟩
  · have h := refused_doubled hm hne hc hd j k
    rwa [List.length_append, List.length_append, hlength, ← Nat.add_assoc,
      String.length_toList] at h
  · have h := refused_trailing hm hne hc j
    rwa [String.length_ofList]
  · have h := refused_unseparated hm hne hc hf text
    rwa [List.length_append, hlength] at h

/-- `Or` is no part of `GreaterOrEqual` in front of a fault. -/
theorem parse_misplaced_separator_greater :
    let fields : FieldMap := .ofList [("field1", "FIELD1"), ("field2", "FIELD2")]
    parse fields "findByAndField2" = .error (.misplaced "findByAndField2" 6 .connective) ∧
    parse fields "findByField1NotGreaterOrAndField2" =
      .error (.misplaced "findByField1NotGreaterOrAndField2" 24 .connective) ∧
    parse fields "findByField1NotGreaterOr" =
      .error (.misplaced "findByField1NotGreaterOr" 24 .danglingConnective) ∧
    parse fields "findByField1NotGreaterField2Less" =
      .error (.misplaced "findByField1NotGreaterField2Less" 22 .noConnective) := by
  intro fields
  have hfields : Unmistakable fields :=
    { nonempty := by decide, apart := by decide, clear := by decide }
  have hfirst : Condition.Spells ⟨"field1", "FIELD1", .greater, true⟩ "Field1NotGreater".toList :=
    ⟨_, .word .greater, by decide⟩
  have hother : Condition.Spells ⟨"field2", "FIELD2", .isEqual, false⟩ "Field2".toList :=
    ⟨[], .silent, by decide⟩
  have hclauses : Writes fields [⟨none, ⟨"field1", "FIELD1", .greater, true⟩⟩]
      "Field1NotGreater".toList := ⟨by decide, by decide, spells_singleton (c := ⟨none, _⟩) hfirst⟩
  have hothers : Writes fields [⟨none, ⟨"field2", "FIELD2", .isEqual, false⟩⟩] "Field2".toList :=
    ⟨by decide, by decide, spells_singleton (c := ⟨none, _⟩) hother⟩
  obtain ⟨hleading, hdoubled, htrailing, hunseparated⟩ :=
    parse_misplaced_separator hfields (by decide) hclauses hothers
  exact ⟨hleading .and, hdoubled .or .and, htrailing .or,
    hunseparated "field2" (by decide) "Less".toList⟩

/-! ## `Or` behind `Greater` and `Less` -/

/-- The clauses that the text still to come cannot change. -/
def Scan.settled (s : Scan) : List Clause :=
  match s.expect with
  | .connective => s.completed
  | _ => s.clauses

section Settled

variable {index : FieldIndex} {method : String} {s t : Scan} {p : Predicate}

theorem Scan.clauses_prefix_completed (s : Scan) : s.clauses <+: s.completed := by
  unfold Scan.completed
  split
  · exact List.prefix_append _ _
  · exact List.prefix_rfl

theorem Scan.settled_prefix_completed (s : Scan) : s.settled <+: s.completed := by
  unfold Scan.settled
  split
  · exact List.prefix_rfl
  · exact s.clauses_prefix_completed

theorem settled_prefix_of_step (h : s.step index method = .ok t) : s.settled <+: t.settled := by
  -- only what is read of a condition is settled anew, and it comes behind the complete clauses
  unfold Scan.step at h
  split at h
  · rename_i he
    obtain ⟨c, after, -, rfl⟩ := Scan.stepField_ok h
    simp [Scan.settled, he]
  · rename_i he
    obtain ⟨c, negated, k, tail, after, -, -, -, rfl⟩ := Scan.stepCondition_ok h
    simp [Scan.settled, he, Scan.completed]
  · rename_i he
    obtain ⟨j, after, -, rfl⟩ := Scan.stepConnective_ok h
    simp [Scan.settled, he]

/-- What the reader has settled is in its answer. -/
theorem settled_prefix_of_run (h : s.run index method = .ok p) : s.settled <+: p.clauses := by
  fun_induction Scan.run index method s with
  | case1 s hr =>
    unfold Scan.finish at h
    split at h
    · cases h
      exact s.settled_prefix_completed
    · cases h
  | case2 => cases h
  | case3 s hr t ht ih => exact (settled_prefix_of_step ht).trans (ih h)

end Settled

/-- The comparison that `Greater` or `Less` becomes with `OrEqual` behind it. -/
def Comparison.orEqual : Comparison → Comparison
  | .greater => .greaterOrEqual
  | .less => .lessOrEqual
  | k => k

/-- The longer comparison is read, whatever follows it. -/
theorem run_orEqual (index : FieldIndex) (method : String) (c : Condition) {k : Comparison}
    (hk : k = .greater ∨ k = .less) (rest : List Char) :
    Scan.run index method
        { rest := negationWord c.negated ++ (k.orEqual.word.toList ++ rest), expect := .condition
          current := some { field := c.field, column := c.column } } =
      Scan.run index method
        { rest, expect := .connective, current := some { c with comparison := k.orEqual } } := by
  have hne : negationWord c.negated ++ (k.orEqual.word.toList ++ rest) ≠ [] := by
    rcases hk with rfl | rfl <;> simp [Comparison.orEqual, Comparison.word]
  have hcomparison : takeComparison (k.orEqual.word.toList ++ rest) = (k.orEqual, rest) := by
    rcases hk with rfl | rfl <;> rfl
  refine Scan.run_step hne ?_
  simp only [Scan.step, Scan.stepCondition, takeNegation_word, hcomparison]

/-- `Greater` and `Less` leave an `Or` behind them to the next clause, unless its field starts with
`Equal`: what is read then is the longer comparison. -/
theorem parse_greater_or {fields : FieldMap} (hu : Unambiguous fields) {f g fcol gcol : String}
    (hf : (f, fcol) ∈ fields.entries) (hg : (g, gcol) ∈ fields.entries) {k : Comparison}
    (hk : k = .greater ∨ k = .less) (negated : Bool) {method : String}
    (hm : method.toList = findBy.toList ++ (capitalizeChars f.toList ++ (negationWord negated ++
      (k.word.toList ++ (Connective.or.word.toList ++ capitalizeChars g.toList))))) :
    (¬ "Equal".toList <+: capitalizeChars g.toList →
      parse fields method = .ok ⟨method,
        [⟨none, ⟨f, fcol, k, negated⟩⟩, ⟨some .or, ⟨g, gcol, .isEqual, false⟩⟩]⟩) ∧
    ("Equal".toList <+: capitalizeChars g.toList → ∀ p, parse fields method = .ok p →
      p.clauses.head? = some ⟨none, ⟨f, fcol, k.orEqual, negated⟩⟩) := by
  have hfield : capitalizeChars f.toList ≠ [] := hu.nonempty f (List.mem_map_of_mem hf)
  rw [parse_of_toList hm (by simp [hfield])]
  constructor
  · intro hEqual
    have hfirst : Condition.Spells ⟨f, fcol, k, negated⟩
        (capitalizeChars f.toList ++ (negationWord negated ++ k.word.toList)) := ⟨_, .word k, rfl⟩
    have hsecond : Condition.Spells ⟨g, gcol, .isEqual, false⟩ (capitalizeChars g.toList) :=
      ⟨[], .silent, by simp [negationWord]⟩
    have hrun := run_clauses hu method ⟨none, _⟩ [⟨some .or, _⟩] _ _ [] hfirst
      (.cons hsecond .nil) (by simp) (List.forall_mem_cons.2 ⟨hf, List.forall_mem_singleton.2 hg⟩)
      (List.isChain_pair.2 fun h => hEqual h.2.2)
    simpa [joinWord] using hrun
  · -- what stands behind the longer comparison may be anything: it cannot change this clause
    rintro ⟨rest, hrest⟩ p hp
    have hword : k.word.toList ++ (Connective.or.word.toList ++ capitalizeChars g.toList) =
        k.orEqual.word.toList ++ rest := by
      rw [← hrest]
      rcases hk with rfl | rfl <;> rfl
    rw [run_field (c := ⟨f, fcol, k, negated⟩) hu _ hf, hword,
      run_orEqual _ _ ⟨f, fcol, k, negated⟩ hk] at hp
    obtain ⟨more, hp⟩ := settled_prefix_of_run hp
    rw [← hp]
    rfl

/-- The whole of `GreaterOrEqual` is one comparison, also where `Equal` names a field. -/
theorem parse_price_greaterOrEqual :
    parse (.ofList [("price", "PRICE"), ("equal", "EQUAL")]) "findByPriceGreaterOrEqual" =
      .ok ⟨"findByPriceGreaterOrEqual", [⟨none, ⟨"price", "PRICE", .greaterOrEqual, false⟩⟩]⟩ := by
  have hname : "findByPriceGreaterOrEqual".toList =
      findBy.toList ++ "PriceGreaterOrEqual".toList := by decide
  have hindex : FieldIndex.ofMap (.ofList [("price", "PRICE"), ("equal", "EQUAL")]) =
      [⟨"Price".toList, "price", "PRICE"⟩, ⟨"Equal".toList, "equal", "EQUAL"⟩] := by cbv
  rw [parse_of_toList hname (by decide), hindex, Scan.run_step (by decide) rfl,
    Scan.run_step (by decide) rfl, Scan.run_nil rfl]
  rfl

/-- An `Or` that joins, and one that goes into the comparison in front of it. -/
theorem parse_greater_or_both_ways :
    let fields : FieldMap := .ofList [("price", "PRICE"), ("equal", "EQUAL")]
    parse fields "findByEqualNotLessOrPrice" = .ok ⟨"findByEqualNotLessOrPrice",
        [⟨none, ⟨"equal", "EQUAL", .less, true⟩⟩,
         ⟨some .or, ⟨"price", "PRICE", .isEqual, false⟩⟩]⟩ ∧
      ∃ p, parse fields "findByPriceGreaterOrEqual" = .ok p ∧
        p.clauses.head? = some ⟨none, ⟨"price", "PRICE", .greaterOrEqual, false⟩⟩ := by
  intro fields
  have hfields : Unambiguous fields := ⟨by decide, by decide⟩
  have hprice : ("price", "PRICE") ∈ fields.entries := by decide
  have hequal : ("equal", "EQUAL") ∈ fields.entries := by decide
  refine ⟨(parse_greater_or hfields hequal hprice (.inr rfl) true (by decide)).1 (by decide),
    _, parse_price_greaterOrEqual, ?_⟩
  exact (parse_greater_or hfields hprice hequal (.inl rfl) false (by decide)).2 (by decide) _
    parse_price_greaterOrEqual

/-- A field of the name `equal` is read as part of the comparison in front of it. -/
theorem orEqual_hides_field :
    let fields : FieldMap := .ofList [("price", "PRICE"), ("equal", "EQUAL")]
    Unambiguous fields ∧
      "findByPriceGreaterOrEqual".toList = findBy.toList ++ (capitalizeChars "price".toList ++
        (negationWord false ++ (Comparison.greater.word.toList ++
          (Connective.or.word.toList ++ capitalizeChars "equal".toList)))) ∧
      parse fields "findByPriceGreaterOrEqual" = .ok ⟨"findByPriceGreaterOrEqual",
        [⟨none, ⟨"price", "PRICE", .greaterOrEqual, false⟩⟩]⟩ ∧
      parse fields "findByPriceGreaterOrEqual" ≠ .ok ⟨"findByPriceGreaterOrEqual",
        [⟨none, ⟨"price", "PRICE", .greater, false⟩⟩,
         ⟨some .or, ⟨"equal", "EQUAL", .isEqual, false⟩⟩]⟩ := by
  intro fields
  refine ⟨⟨by decide, by decide⟩, by decide, parse_price_greaterOrEqual, ?_⟩
  rw [parse_price_greaterOrEqual]
  decide

end BeanKit.Query

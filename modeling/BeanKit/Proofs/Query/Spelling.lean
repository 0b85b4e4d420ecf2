import BeanKit.Query.Parser
/-!
# How clauses are spelled

`Spells clauses text` says that `text` is a way to write `clauses` behind `findBy`: clause after
clause, each with the word that joins it, its capitalised field, `Not` where it is negated, and the
word of its comparison. Only the word for equality may be left out, so clauses can have several
spellings. The lemmas say what the reader takes from the front of a spelling.
-/

namespace BeanKit.Query

open Naming (capitalizeChars)

/-! ## The grammar -/

/-- What may stand for a comparison: its word, and nothing at all for equality. -/
inductive Comparison.Spells : Comparison → List Char → Prop
  | word (k : Comparison) : k.Spells k.word.toList
  | silent : Comparison.isEqual.Spells []

/-- The word that joins a clause to the one before it. -/
def joinWord : Option Connective → List Char
  | none => []
  | some j => j.word.toList

/-- The word that negates a condition, where it is negated. -/
def negationWord (negated : Bool) : List Char := if negated then notWord.toList else []

/-- A condition is its capitalised field, its negation and its comparison. -/
def Condition.Spells (c : Condition) (text : List Char) : Prop :=
  ∃ tail, c.comparison.Spells tail ∧
    text = capitalizeChars c.field.toList ++ (negationWord c.negated ++ tail)

/-- Clauses are written one after the other, each behind the word that joins it. -/
inductive Spells : List Clause → List Char → Prop
  | nil : Spells [] []
  | cons {c : Clause} {cs : List Clause} {text rest : List Char} :
      c.condition.Spells text → Spells cs rest → Spells (c :: cs) (joinWord c.join ++ (text ++ rest))

/-- The first clause stands alone and every later one is joined to the one before it. -/
def WellJoined : List Clause → Prop
  | [] => True
  | c :: cs => c.join = none ∧ ∀ d ∈ cs, d.join ≠ none

instance : DecidablePred WellJoined
  | [] => inferInstanceAs (Decidable True)
  | c :: cs => inferInstanceAs (Decidable (c.join = none ∧ ∀ d ∈ cs, d.join ≠ none))

/-- A condition is about a field of the map and has the column of that field. -/
def Known (fields : FieldMap) (c : Condition) : Prop := (c.field, c.column) ∈ fields.entries

instance (fields : FieldMap) : DecidablePred (Known fields) := fun c =>
  inferInstanceAs (Decidable ((c.field, c.column) ∈ fields.entries))

theorem Known.mem_keys {fields : FieldMap} {c : Condition} (h : Known fields c) :
    c.field ∈ fields.keys := List.mem_map_of_mem h

/-- Field names that can be told apart at the front of any text. -/
structure Unambiguous (fields : FieldMap) : Prop where
  nonempty : ∀ f ∈ fields.keys, capitalizeChars f.toList ≠ []
  apart : ∀ f ∈ fields.keys, ∀ g ∈ fields.keys, f ≠ g →
    ¬ capitalizeChars f.toList <+: capitalizeChars g.toList

/-- The comparison of the first clause and the start of the second read as one longer comparison:
`Greater` or `Less`, `Or`, and a field that starts with `Equal`. -/
def Swallows (c d : Clause) : Prop :=
  (c.condition.comparison = .greater ∨ c.condition.comparison = .less) ∧ d.join = some .or ∧
    "Equal".toList <+: capitalizeChars d.condition.field.toList

instance : DecidableRel Swallows := fun c d =>
  inferInstanceAs (Decidable ((c.condition.comparison = .greater ∨ c.condition.comparison = .less) ∧
    d.join = some .or ∧ "Equal".toList <+: capitalizeChars d.condition.field.toList))

/-! ## Spellings -/

theorem spells_append {cs ds : List Clause} {text text' : List Char} (h : Spells cs text)
    (h' : Spells ds text') : Spells (cs ++ ds) (text ++ text') := by
  induction h with
  | nil => exact h'
  | cons hc _ ih => simpa only [List.append_assoc, List.cons_append] using Spells.cons hc ih

theorem spells_singleton {c : Clause} {text : List Char} (h : c.condition.Spells text) :
    Spells [c] (joinWord c.join ++ text) := by
  simpa using Spells.cons h .nil

theorem wellJoined_append {cs : List Clause} {d : Clause} (h : WellJoined cs)
    (hd : d.join = none ↔ cs = []) : WellJoined (cs ++ [d]) := by
  cases cs with
  | nil => exact ⟨hd.2 rfl, by simp⟩
  | cons c cs =>
    refine ⟨h.1, fun e he => ?_⟩
    rcases List.mem_append.1 he with he | he
    · exact h.2 e he
    · rw [List.mem_singleton.1 he]
      exact fun hn => absurd (hd.1 hn) (by simp)

/-- What comes behind a clause: nothing, or the word that joins the next one. -/
def Boundary (text : List Char) : Prop :=
  text = [] ∨ ∃ (j : Connective) (rest : List Char), text = j.word.toList ++ rest

theorem boundary_of_spells {cs : List Clause} {text : List Char} (h : Spells cs text)
    (hj : ∀ d ∈ cs, d.join ≠ none) : Boundary text := by
  cases h with
  | nil => exact .inl rfl
  | @cons d ds _ _ _ _ =>
    obtain ⟨j, hdj⟩ := Option.ne_none_iff_exists'.1 (hj d (by simp))
    exact .inr ⟨j, _, by rw [hdj]; rfl⟩

theorem comparison_of_spells_nil {k : Comparison} (h : k.Spells []) : k = .isEqual := by
  generalize ht : ([] : List Char) = text at h
  cases h with
  | word k => cases k <;> simp [Comparison.word] at ht
  | silent => rfl

/-- A text that nothing of a condition is taken from: it cannot be its negation or its comparison,
and it turns neither of these into a longer word. `k` is the comparison of the condition. -/
structure Closes (k : Comparison) (text : List Char) : Prop where
  negation : ¬ notWord.toList <+: text
  comparison : ∀ k' : Comparison, ¬ k'.word.toList <+: text
  equal : ¬ "Equal".toList <+: text
  orEqual : k = .greater ∨ k = .less → ¬ "OrEqual".toList <+: text

/-- A word that joins closes any condition, unless `Greater` or `Less` goes on with `OrEqual`. -/
theorem closes_of_boundary {k : Comparison} {text : List Char} (hb : Boundary text)
    (hg : k = .greater ∨ k = .less → ¬ "OrEqual".toList <+: text) : Closes k text := by
  rcases hb with rfl | ⟨j, rest, rfl⟩
  · exact ⟨by decide, fun k' => by cases k' <;> decide, by decide, hg⟩
  · refine ⟨?_, fun k' => ?_, ?_, hg⟩
    · cases j <;> simp [notWord, Connective.word]
    · cases j <;> cases k' <;> simp [Comparison.word, Connective.word]
    · cases j <;> simp [Connective.word]

/-! ## Words at the front of a text -/

theorem takeNegation_word (negated : Bool) (k : Comparison) (after : List Char) :
    takeNegation (negationWord negated ++ (k.word.toList ++ after)) =
      (negated, k.word.toList ++ after) := by
  cases negated <;> cases k <;> rfl

theorem takeNegation_spelled {k : Comparison} {tail after : List Char} (negated : Bool)
    (hk : k.Spells tail) (hc : Closes k after) :
    takeNegation (negationWord negated ++ (tail ++ after)) = (negated, tail ++ after) := by
  cases hk with
  | word k => exact takeNegation_word negated k after
  | silent =>
    cases negated with
    | false =>
      have hn := Text.after?_eq_none_iff.2 hc.negation
      simp [negationWord, takeNegation, hn]
    | true =>
      have hn : Text.startsWith Comparison.notEqual.word.toList (notWord.toList ++ after) = false := by
        rw [Bool.eq_false_iff, Ne, Text.startsWith_iff_prefix]
        exact fun h => hc.equal ((List.prefix_append_right_inj notWord.toList).1 h)
      simp [negationWord, takeNegation, Text.after?_append, hn]

theorem matchWord?_eq_none {α : Type} {word : α → String} {words : List α} {text : List Char}
    (h : ∀ a ∈ words, ¬ (word a).toList <+: text) : matchWord? word words text = none := by
  induction words with
  | nil => rfl
  | cons a words ih =>
    obtain ⟨ha, hwords⟩ := List.forall_mem_cons.1 h
    rw [matchWord?, Text.after?_eq_none_iff.2 ha]
    exact ih hwords

/-- A comparison in front of a text that closes it is taken as it is. -/
theorem takeComparison_spelled {k : Comparison} {tail after : List Char} (hk : k.Spells tail)
    (hc : Closes k after) : takeComparison (tail ++ after) = (k, after) := by
  cases hk with
  | silent =>
    rw [takeComparison, List.nil_append, comparison?, matchWord?_eq_none fun k' _ => hc.comparison k']
    rfl
  | word k =>
    cases k with
    | greater =>
      have hn := Text.after?_eq_none_iff.2 (hc.orEqual (.inl rfl))
      simp_all [takeComparison, comparison?, matchWord?, Comparison.inMatchOrder, Comparison.word,
        Text.after?]
    | less =>
      have hn := Text.after?_eq_none_iff.2 (hc.orEqual (.inr rfl))
      simp_all [takeComparison, comparison?, matchWord?, Comparison.inMatchOrder, Comparison.word,
        Text.after?]
    | _ => rfl

theorem connective?_word (j : Connective) (rest : List Char) :
    connective? (j.word.toList ++ rest) = some (j, rest) := by
  cases j <;> rfl

/-- A field that is cut off inside `Equal` is followed by no character that could go on with it. -/
theorem equal_prefix_field {field more : List Char} (hf : field ≠ [])
    (hm : ∀ ch ∈ more.head?, ch ∉ "qual".toList) (h : "Equal".toList <+: field ++ more) :
    "Equal".toList <+: field := by
  rcases List.prefix_or_prefix_of_prefix h (List.prefix_append field more) with h' | ⟨x, hx⟩
  · exact h'
  · rw [← hx, List.prefix_append_right_inj] at h
    cases x with
    | nil => exact ⟨[], by simpa using hx.symm⟩
    | cons ch x =>
      obtain ⟨y, rfl⟩ := h
      have hmem : ch ∈ "Equal".toList.tail := by
        obtain ⟨e, field, rfl⟩ := List.exists_cons_of_ne_nil hf
        rw [← hx]
        simp
      exact absurd hmem (hm ch (by simp))

theorem head_behind_field {k : Comparison} {tail after : List Char} (negated : Bool)
    (hk : k.Spells tail) (hb : Boundary after) :
    ∀ ch ∈ (negationWord negated ++ (tail ++ after)).head?, ch ∉ "qual".toList := by
  cases negated with
  | true => simp [negationWord, notWord]
  | false =>
    cases hk with
    | word k => cases k <;> simp [negationWord, Comparison.word]
    | silent =>
      rcases hb with rfl | ⟨j, rest, rfl⟩
      · simp [negationWord]
      · cases j <;> simp [negationWord, Connective.word]

/-! ## Fields at the front of a text -/

theorem mem_ofMap {fields : FieldMap} {c : Candidate} :
    c ∈ FieldIndex.ofMap fields ↔
      (c.field, c.column) ∈ fields.entries ∧ c.spelling = capitalizeChars c.field.toList := by
  obtain ⟨spelling, field, column⟩ := c
  simp only [FieldIndex.ofMap, List.mem_mergeSort, List.mem_map, Candidate.mk.injEq, Prod.exists]
  constructor
  · rintro ⟨f, col, hm, rfl, rfl, rfl⟩
    exact ⟨hm, rfl⟩
  · rintro ⟨hm, rfl⟩
    exact ⟨field, column, hm, rfl, rfl, rfl⟩

theorem match?_sound {index : FieldIndex} {text after : List Char} {c : Candidate}
    (h : index.match? text = some (c, after)) : c ∈ index ∧ text = c.spelling ++ after := by
  induction index with
  | nil => simp [FieldIndex.match?] at h
  | cons b index ih =>
    cases hb : Text.after? b.spelling text with
    | none =>
      obtain ⟨hm, ht⟩ := ih (by simpa [FieldIndex.match?, hb] using h)
      exact ⟨List.mem_cons_of_mem _ hm, ht⟩
    | some r =>
      obtain ⟨rfl, rfl⟩ : b = c ∧ r = after := by simpa [FieldIndex.match?, hb] using h
      exact ⟨List.mem_cons_self, Text.after?_eq_some_iff.1 hb⟩

theorem match?_isSome {index : FieldIndex} {text : List Char} {c : Candidate} (hc : c ∈ index)
    (h : c.spelling <+: text) : ∃ d after, index.match? text = some (d, after) := by
  induction index with
  | nil => cases hc
  | cons b index ih =>
    cases hb : Text.after? b.spelling text with
    | some r => exact ⟨b, r, by simp [FieldIndex.match?, hb]⟩
    | none =>
      rcases List.mem_cons.1 hc with rfl | hc
      · exact absurd h (Text.after?_eq_none_iff.1 hb)
      · simpa [FieldIndex.match?, hb] using ih hc

/-- In an unambiguous map a capitalised field is taken as that field, whatever follows. -/
theorem match?_spelled {fields : FieldMap} (hu : Unambiguous fields) {field column : String}
    (hf : (field, column) ∈ fields.entries) (text : List Char) :
    (FieldIndex.ofMap fields).match? (capitalizeChars field.toList ++ text) =
      some (⟨capitalizeChars field.toList, field, column⟩, text) := by
  obtain ⟨⟨spelling, field', column'⟩, after, hm⟩ :=
    match?_isSome (c := ⟨_, field, column⟩) (mem_ofMap.2 ⟨hf, rfl⟩)
      (List.prefix_append (capitalizeChars field.toList) text)
  obtain ⟨hc, ht⟩ := match?_sound hm
  obtain ⟨hf', hs⟩ := mem_ofMap.1 hc
  simp only at hf' hs ht
  subst hs
  have hkey : field ∈ fields.keys := List.mem_map.2 ⟨_, hf, rfl⟩
  have hkey' : field' ∈ fields.keys := List.mem_map.2 ⟨_, hf', rfl⟩
  have hname : field' = field := by
    apply Decidable.byContradiction
    intro hne
    -- both names start the same text, so one of them starts the other
    rcases List.prefix_or_prefix_of_prefix ⟨after, ht.symm⟩ (List.prefix_append _ text) with h | h
    · exact hu.apart _ hkey' _ hkey hne h
    · exact hu.apart _ hkey _ hkey' (Ne.symm hne) h
  subst hname
  have hcol : column' = column := by
    have h := (fields.get?_eq_some_iff _ _).2 hf
    rw [(fields.get?_eq_some_iff _ _).2 hf'] at h
    exact Option.some.inj h
  rw [hm, hcol, List.append_cancel_left ht]

end BeanKit.Query

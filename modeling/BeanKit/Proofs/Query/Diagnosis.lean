import BeanKit.Proofs.Query.Acceptance
/-!
# Where a query name goes wrong

`parse_error_diagnosed`: every error of the reader is about the place that it names. What stands in
front of that place is `findBy` and a start of the grammar, and what stands behind it cannot go on
with that start in the way that the error says. Places count characters.

The reader stops at the first text that it cannot go on with, so all of this is read off the state
that it stops in: `Scan.Accounts` says what has been passed, and `Scan.Stuck` what comes next.
-/

namespace BeanKit.Query

open Naming (capitalizeChars)

/-! ## Names of queries -/

/-- A query name with a text behind its start. -/
def IsNamed (method : String) : Prop := ∃ c body, method.toList = findBy.toList ++ c :: body

theorem not_isNamed_iff {method : String} :
    ¬ IsNamed method ↔ ¬ findBy.toList <+: method.toList ∨ method = findBy := by
  constructor
  · intro hn
    by_cases hp : findBy.toList <+: method.toList
    · obtain ⟨rest, hrest⟩ := hp
      cases rest with
      | nil => exact .inr (String.toList_inj.1 (by simpa using hrest.symm))
      | cons c body => exact absurd ⟨c, body, hrest.symm⟩ hn
    · exact .inl hp
  · rintro h ⟨c, body, hname⟩
    rcases h with h | rfl
    · exact h ⟨_, hname.symm⟩
    · simp at hname

theorem parse_of_not_isNamed (fields : FieldMap) {method : String} (h : ¬ IsNamed method) :
    parse fields method = .error (.invalidName method) := by
  unfold parse parseWith
  split
  · rename_i c body hbody
    exact absurd ⟨c, body, Text.after?_eq_some_iff.1 hbody⟩ h
  · rfl

/-! ## What may stand at a place -/

/-- Clauses, as many as there are, each with the word behind it that joins the next one. -/
inductive Groups (fields : FieldMap) : List Char → Prop
  | nil : Groups fields []
  | snoc {text ctext : List Char} {c : Condition} (j : Connective) : Groups fields text →
      Known fields c → c.Spells ctext → Groups fields (text ++ (ctext ++ j.word.toList))

def StartsWithField (fields : FieldMap) (text : List Char) : Prop :=
  ∃ f ∈ fields.keys, capitalizeChars f.toList <+: text

def StartsWithConnective (text : List Char) : Prop := ∃ j : Connective, j.word.toList <+: text

/-- A connective that stands where a field belongs: nothing, another one, or a field is behind it. -/
def Displaced (fields : FieldMap) (text : List Char) : Prop :=
  ∃ (j : Connective) (after : List Char), text = j.word.toList ++ after ∧
    (after = [] ∨ StartsWithConnective after ∨ StartsWithField fields after)

theorem match?_isSome_iff {fields : FieldMap} {text : List Char} :
    ((FieldIndex.ofMap fields).match? text).isSome ↔ StartsWithField fields text := by
  constructor
  · intro h
    obtain ⟨⟨c, after⟩, hm⟩ := Option.isSome_iff_exists.1 h
    obtain ⟨hc, rfl⟩ := match?_sound hm
    obtain ⟨hf, hs⟩ := mem_ofMap.1 hc
    exact ⟨c.field, List.mem_map_of_mem hf, hs ▸ List.prefix_append _ _⟩
  · rintro ⟨f, hf, hp⟩
    obtain ⟨⟨f, column⟩, he, rfl⟩ := List.mem_map.1 hf
    obtain ⟨c, after, hm⟩ := match?_isSome (c := ⟨_, f, column⟩) (mem_ofMap.2 ⟨he, rfl⟩) hp
    rw [hm]
    rfl

theorem connective?_isSome_iff {text : List Char} :
    (connective? text).isSome ↔ StartsWithConnective text := by
  constructor
  · intro h
    obtain ⟨⟨j, after⟩, hj⟩ := Option.isSome_iff_exists.1 h
    exact ⟨j, after, (matchWord?_sound hj).symm⟩
  · rintro ⟨j, after, rfl⟩
    rw [connective?_word]
    rfl

theorem match?_eq_none_iff {fields : FieldMap} {text : List Char} :
    (FieldIndex.ofMap fields).match? text = none ↔ ¬ StartsWithField fields text := by
  rw [← match?_isSome_iff, Option.not_isSome_iff_eq_none]

theorem connective?_eq_none_iff {text : List Char} :
    connective? text = none ↔ ¬ StartsWithConnective text := by
  rw [← connective?_isSome_iff, Option.not_isSome_iff_eq_none]

theorem isMisplaced_iff {fields : FieldMap} {text : List Char} :
    (FieldIndex.ofMap fields).isMisplaced text ↔ Displaced fields text := by
  unfold FieldIndex.isMisplaced
  constructor
  · intro h
    split at h
    · cases h
    · rename_i j after hj
      rw [Bool.or_eq_true, Bool.or_eq_true, List.isEmpty_iff, connective?_isSome_iff,
        match?_isSome_iff, or_assoc] at h
      exact ⟨j, after, matchWord?_sound hj, h⟩
  · rintro ⟨j, after, rfl, h⟩
    rw [connective?_word]
    simpa [List.isEmpty_iff, connective?_isSome_iff, match?_isSome_iff, or_assoc] using h

/-! ## What the reader has passed -/

/-- Behind a clause, clauses that are joined to it make groups where one more word follows. -/
theorem groups_of_spells {fields : FieldMap} {cs : List Clause} {front ctext text : List Char}
    {c : Condition} (hs : Spells cs text) (hj : ∀ d ∈ cs, d.join ≠ none)
    (hk : ∀ d ∈ cs, Known fields d.condition) (hfront : Groups fields front)
    (hc : Known fields c) (hctext : c.Spells ctext) (j : Connective) :
    Groups fields (front ++ (ctext ++ (text ++ j.word.toList))) := by
  -- a spelling has the word that joins a clause in front of it, groups have it behind the clause
  -- before: each step moves one word over
  induction hs generalizing front c ctext with
  | nil => exact .snoc j hfront hc hctext
  | @cons d ds dtext rest hd _ ih =>
    obtain ⟨hdj, hdsj⟩ := List.forall_mem_cons.1 hj
    obtain ⟨hdk, hdsk⟩ := List.forall_mem_cons.1 hk
    obtain ⟨k, hdj⟩ := Option.ne_none_iff_exists'.1 hdj
    have hgroups := ih hdsj hdsk (.snoc k hfront hc hctext) hdk hd
    simpa only [hdj, joinWord, List.append_assoc] using hgroups

/-- What has been passed are groups, and then what there is of a clause. -/
theorem Scan.Accounts.groups {fields : FieldMap} {body : List Char} {s : Scan}
    (h : s.Accounts fields body) : ∃ opened part, Groups fields opened ∧
      Partial fields s.expect s.current part ∧ body = opened ++ (part ++ s.rest) := by
  obtain ⟨text, part, hspells, hpart, hbody⟩ := h.passed
  refine ⟨text ++ joinWord s.join, part, ?_, hpart, by rw [hbody, List.append_assoc]⟩
  have hjoined := h.joined
  have hknown := h.known
  have hpending := h.pending
  generalize s.clauses = clauses at hspells hjoined hknown hpending
  cases hspells with
  | nil =>
    -- without a clause no word waits either
    rw [hpending.2 rfl]
    exact .nil
  | @cons c cs ctext rest hc hcs =>
    obtain ⟨hck, hcsk⟩ := List.forall_mem_cons.1 hknown
    have hwaiting : s.join ≠ none := fun hn => by simpa using hpending.1 hn
    obtain ⟨j, hj⟩ := Option.ne_none_iff_exists'.1 hwaiting
    rw [hj, hjoined.1]
    have hgroups := groups_of_spells hcs hjoined.2 hcsk .nil hck hc j
    simpa only [joinWord, List.nil_append, List.append_assoc] using hgroups

/-- Where a field is expected, only groups have been passed. -/
theorem Scan.Accounts.groups_of_field {fields : FieldMap} {body : List Char} {s : Scan}
    (h : s.Accounts fields body) (he : s.expect = .field) :
    ∃ opened, Groups fields opened ∧ body = opened ++ s.rest := by
  obtain ⟨opened, part, hgroups, hpart, hbody⟩ := h.groups
  rw [he] at hpart
  generalize s.current = current at hpart
  cases hpart
  exact ⟨opened, hgroups, hbody⟩

theorem Scan.position_eq {method : String} {s : Scan} {passed : List Char}
    (h : method.toList = passed ++ s.rest) : s.position method = passed.length := by
  rw [Scan.position, ← String.length_toList, h, List.length_append, Nat.add_sub_cancel]

/-! ## The places of errors -/

/-- An error together with what is true of the place that it names. -/
inductive Diagnosed (fields : FieldMap) (method : String) : Error → Prop
  | invalidName : (¬ findBy.toList <+: method.toList ∨ method = findBy) →
      Diagnosed fields method (.invalidName method)
  | unknownField {opened rest : List Char} :
      method.toList = findBy.toList ++ opened ++ rest → Groups fields opened → rest ≠ [] →
      ¬ StartsWithField fields rest → ¬ Displaced fields rest →
      Diagnosed fields method (.unknownField method (findBy.toList ++ opened).length)
  | connective {opened rest : List Char} :
      method.toList = findBy.toList ++ opened ++ rest → Groups fields opened →
      ¬ StartsWithField fields rest → Displaced fields rest →
      Diagnosed fields method (.misplaced method (findBy.toList ++ opened).length .connective)
  | noConnective {opened ctext rest : List Char} {c : Condition} :
      method.toList = findBy.toList ++ opened ++ ctext ++ rest → Groups fields opened →
      Known fields c → c.Spells ctext → rest ≠ [] → ¬ StartsWithConnective rest →
      Diagnosed fields method
        (.misplaced method (findBy.toList ++ opened ++ ctext).length .noConnective)
  | danglingConnective {opened : List Char} :
      method.toList = findBy.toList ++ opened → Groups fields opened → opened ≠ [] →
      Diagnosed fields method (.misplaced method method.length .danglingConnective)

section Run

variable {fields : FieldMap} {body : List Char} {method : String} {s : Scan} {e : Error}

theorem diagnosed_of_stuck (hm : method.toList = findBy.toList ++ body)
    (ha : s.Accounts fields body) (hr : s.rest ≠ []) (h : s.Stuck (.ofMap fields) method e) :
    Diagnosed fields method e := by
  cases h with
  | connective expect field misplaced =>
    obtain ⟨opened, hgroups, rfl⟩ := ha.groups_of_field expect
    rw [← List.append_assoc] at hm
    rw [Scan.position_eq hm]
    exact .connective hm hgroups (match?_eq_none_iff.1 field) (isMisplaced_iff.1 misplaced)
  | unknownField expect field misplaced =>
    obtain ⟨opened, hgroups, rfl⟩ := ha.groups_of_field expect
    have hdisplaced : ¬ Displaced fields s.rest := fun h => by
      rw [isMisplaced_iff.2 h] at misplaced
      cases misplaced
    rw [← List.append_assoc] at hm
    rw [Scan.position_eq hm]
    exact .unknownField hm hgroups hr (match?_eq_none_iff.1 field) hdisplaced
  | missingField expect current =>
    -- no start of the text leads here: a condition is expected behind its field only
    obtain ⟨opened, part, -, hpart, -⟩ := ha.groups
    rw [expect, current] at hpart
    cases hpart
  | noConnective expect connective =>
    obtain ⟨opened, part, hgroups, hpart, rfl⟩ := ha.groups
    rw [expect] at hpart
    generalize s.current = current at hpart
    cases hpart with
    | connective hk hc =>
      rw [← List.append_assoc, ← List.append_assoc] at hm
      rw [Scan.position_eq hm]
      exact .noConnective hm hgroups hk hc hr (connective?_eq_none_iff.1 connective)

theorem diagnosed_of_finish (hm : method.toList = findBy.toList ++ body) (hne : body ≠ [])
    (ha : s.Accounts fields body) (hr : s.rest = []) (h : s.finish method = .error e) :
    Diagnosed fields method e := by
  unfold Scan.finish at h
  split at h
  · cases h
  · rename_i hcurrent
    cases h
    obtain ⟨opened, part, hgroups, hpart, rfl⟩ := ha.groups
    rw [hcurrent] at hpart
    generalize s.expect = expect at hpart
    cases hpart
    rw [hr, List.nil_append, List.append_nil] at hm hne
    rw [Scan.position, hr, List.length_nil, Nat.sub_zero]
    exact .danglingConnective hm hgroups hne

theorem diagnosed_of_run (hm : method.toList = findBy.toList ++ body) (hne : body ≠ [])
    (ha : s.Accounts fields body) (h : s.run (.ofMap fields) method = .error e) :
    Diagnosed fields method e := by
  fun_induction Scan.run with
  | case1 s hr => exact diagnosed_of_finish hm hne ha (by simpa using hr) h
  | case2 s hr e' he =>
    cases h
    exact diagnosed_of_stuck hm ha (by simpa using hr) (Scan.stuck_of_step he)
  | case3 s hr t ht ih => exact ih (accounts_step ha ht) h

end Run

theorem diagnosed_of_parse {fields : FieldMap} {method : String} {e : Error}
    (h : parse fields method = .error e) : Diagnosed fields method e := by
  by_cases hn : IsNamed method
  · obtain ⟨c, body, hbody⟩ := hn
    rw [parse, parseWith, Text.after?_eq_some_iff.2 hbody] at h
    exact diagnosed_of_run hbody (by simp) (accounts_start fields _) h
  · rw [parse_of_not_isNamed fields hn] at h
    cases h
    exact .invalidName (not_isNamed_iff.1 hn)

/-- Every error of the reader is about the place that it names, and a name is refused as a whole
exactly where nothing follows `findBy` or something else stands in its place. -/
theorem parse_error_diagnosed (fields : FieldMap) (method : String) :
    (∀ name, parse fields method = .error (.invalidName name) ↔
      name = method ∧ (¬ findBy.toList <+: method.toList ∨ method = findBy)) ∧
    ∀ e, parse fields method = .error e → Diagnosed fields method e := by
  refine ⟨fun name => ⟨fun h => ?_, ?_⟩, fun e => diagnosed_of_parse⟩
  · generalize he : Error.invalidName name = e at h
    cases diagnosed_of_parse h with
    | invalidName hm =>
      cases he
      exact ⟨rfl, hm⟩
    | _ => cases he
  · rintro ⟨rfl, hm⟩
    exact parse_of_not_isNamed fields (not_isNamed_iff.2 hm)

/-- Places count characters, also behind letters that take more than a byte. -/
theorem parse_error_diagnosed_beyond_ascii :
    let fields : FieldMap := .ofList [("größe", "GROESSE")]
    parse fields "findByGrößeAndOrder" = .error (.unknownField "findByGrößeAndOrder" 14) ∧
      Diagnosed fields "findByGrößeAndOrder" (.unknownField "findByGrößeAndOrder" 14) := by
  intro fields
  have hindex : FieldIndex.ofMap fields = [⟨"Größe".toList, "größe", "GROESSE"⟩] := by cbv
  have hparse : parse fields "findByGrößeAndOrder" =
      .error (.unknownField "findByGrößeAndOrder" 14) := by
    rw [parse, hindex, parseWith]
    refine Eq.trans (b := Scan.run _ _ { rest := "GrößeAndOrder".toList }) rfl ?_
    rw [Scan.run_step (by decide) rfl, Scan.run_step (by decide) rfl,
      Scan.run_step (by decide) rfl, Scan.run]
    rfl
  exact ⟨hparse, (parse_error_diagnosed _ _).2 _ hparse⟩

end BeanKit.Query

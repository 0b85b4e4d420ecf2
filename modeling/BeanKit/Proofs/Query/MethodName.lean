import BeanKit.Expansion.Repository
import BeanKit.Proofs.Query.Arguments
import BeanKit.Proofs.Query.CamelCase
import BeanKit.Repository
/-! # From a method's name to its clauses

A query is declared as a method in snake case and called by that name in camel case. Snake case sets
every word apart by underscores, and a field may have underscores of its own, anywhere and in a row.
Raising the letter behind each of them writes every word as it stands in a query name, so what the
proxy reads is what the method's name was put together from. -/

namespace BeanKit.Query

open Naming

/-! ## Clauses in snake case -/

/-- The word of a comparison in snake case. -/
def Comparison.snakeWord : Comparison → String
  | .greaterOrEqual => "greater_or_equal"
  | .lessOrEqual => "less_or_equal"
  | .greater => "greater"
  | .less => "less"
  | .notEqual => "not_equal"
  | .isEqual => "is_equal"

/-- The word of a connective in snake case. -/
def Connective.snakeWord : Connective → String
  | .and => "and"
  | .or => "or"

/-- What may stand for a comparison: its word, and nothing at all for equality. -/
inductive Comparison.SnakeWords : Comparison → List String → Prop
  | word (k : Comparison) : k.SnakeWords [k.snakeWord]
  | silent : Comparison.isEqual.SnakeWords []

/-- The word in front of a clause, where it is joined to another one. -/
def joinSnakeWords (j : Option Connective) : List String := (j.map (·.snakeWord)).toList

/-- The word that negates a condition, where it is negated. -/
def negationSnakeWords (negated : Bool) : List String := if negated then ["not"] else []

/-- A condition is its field, its negation and its comparison. -/
def Condition.SnakeWords (c : Condition) (words : List String) : Prop :=
  ∃ tail, c.comparison.SnakeWords tail ∧ words = c.field :: (negationSnakeWords c.negated ++ tail)

/-- Clauses come one after the other, each behind the word that joins it. -/
inductive SnakeWords : List Clause → List String → Prop
  | nil : SnakeWords [] []
  | cons {c : Clause} {cs : List Clause} {words rest : List String} :
      c.condition.SnakeWords words → SnakeWords cs rest →
        SnakeWords (c :: cs) (joinSnakeWords c.join ++ (words ++ rest))

/-- The name of the method that finds by some words. -/
def snakeName (words : List String) : String := "_".intercalate ("find" :: "by" :: words)

/-! ## Camel case, word by word -/

/-- A word of ASCII letters, digits and underscores. -/
def Plain (word : String) : Prop := ∀ ch ∈ word.toList, ch.isAlphanum ∨ ch = '_'

-- By name: a search may find the instance that runs over all characters.
instance (word : String) : Decidable (Plain word) := List.decidableBAll _ word.toList

theorem toNat_lt_of_isAlphanum {ch : Char} (h : ch.isAlphanum) : ch.toNat < 128 := by
  have hcases : ((ch.isUpper || ch.isLower) || ch.isDigit) = true := h
  have hz : ch.toNat ≤ 'z'.toNat := by
    rcases Bool.or_eq_true_iff.1 hcases with hletter | hdigit
    · rcases Bool.or_eq_true_iff.1 hletter with hupper | hlower
      · have hZ : ch.val ≤ 'Z'.val := (of_decide_eq_true hupper).2
        exact Nat.le_trans (UInt32.le_iff_toNat_le.1 hZ) (by decide)
      · exact UInt32.le_iff_toNat_le.1 (of_decide_eq_true (Bool.and_eq_true_iff.1 hlower).2)
    · have h9 : ch.val ≤ '9'.val := of_decide_eq_true (Bool.and_eq_true_iff.1 hdigit).2
      exact Nat.le_trans (UInt32.le_iff_toNat_le.1 h9) (by decide)
  exact Nat.lt_of_le_of_lt hz (by decide)

/-- In ASCII the upper case of a character is one character. -/
theorem toUpper_of_isAlphanum {ch : Char} (h : ch.isAlphanum) :
    Text.toUpper ch = [Text.firstUpper ch] := by
  have hall : ∀ n < 128, Text.toUpper (Char.ofNat n) = [Text.firstUpper (Char.ofNat n)] := by
    decide +kernel
  have hch := hall ch.toNat (toNat_lt_of_isAlphanum h)
  rwa [Char.ofNat_toNat] at hch

/-- In a plain word there is no letter that the two ways of raising tell apart. -/
theorem raiseChars_of_plain {word : String} (hw : Plain word) :
    raiseChars word.toList = capitalizeChars word.toList := by
  refine (raiseChars_eq_iff word).2 fun piece hpiece ch hch => ?_
  rcases hw ch (Text.mem_of_mem_splitOn hpiece (List.mem_of_mem_head? hch)) with h | rfl
  · rw [toUpper_of_isAlphanum h, List.length_singleton]
  · decide

/-- Words, each behind an underscore. -/
def underscored (words : List String) : List Char := words.flatMap fun w => '_' :: w.toList

/-- Words behind underscores are raised each for itself. -/
theorem raiseChars_underscored (cs : List Char) (words : List String) :
    raiseChars (cs ++ underscored words) =
      raiseChars cs ++ words.flatMap fun w => raiseChars w.toList := by
  induction words generalizing cs with
  | nil => simp [underscored]
  | cons word words ih =>
    have hwords : underscored (word :: words) = '_' :: (word.toList ++ underscored words) := rfl
    rw [hwords, raiseChars_append, ih, List.flatMap_cons]

theorem toList_snakeName (words : List String) :
    (snakeName words).toList = "find".toList ++ underscored ("by" :: words) :=
  Text.toList_intercalate_cons "_" "find" ("by" :: words)

/-- The name of a query is `findBy` and the words that it was put together from, capitalised. -/
theorem camel_snakeName {words : List String} (hw : ∀ w ∈ words, Plain w) :
    camel (snakeName words) =
      String.ofList (findBy.toList ++ words.flatMap fun w => capitalizeChars w.toList) := by
  have hwords : words.flatMap (fun w => raiseChars w.toList) =
      words.flatMap fun w => capitalizeChars w.toList :=
    List.flatMap_congr fun w hmem => raiseChars_of_plain (hw w hmem)
  -- `find` stands as it is, and `by` is the first word that is raised
  have hcamel : camelFrom false ("find".toList ++ underscored ("by" :: words)) =
      "find".toList ++ camelFrom true ("by".toList ++ underscored words) := rfl
  rw [camel, toList_snakeName, hcamel, camelFrom_true, raiseChars_underscored, hwords]
  rfl

/-! ## The words spell the clauses -/

theorem capitalizeChars_snakeWord (k : Comparison) :
    capitalizeChars k.snakeWord.toList = k.word.toList := by
  cases k <;> decide

theorem joinWord_eq (j : Option Connective) :
    (joinSnakeWords j).flatMap (fun w => capitalizeChars w.toList) = joinWord j := by
  rcases j with _ | _ | _ <;> decide

theorem negationWord_eq (negated : Bool) :
    (negationSnakeWords negated).flatMap (fun w => capitalizeChars w.toList) =
      negationWord negated := by
  cases negated <;> decide

theorem Comparison.SnakeWords.spells {k : Comparison} {words : List String}
    (h : k.SnakeWords words) : k.Spells (words.flatMap fun w => capitalizeChars w.toList) := by
  cases h with
  | word k =>
    rw [List.flatMap_singleton, capitalizeChars_snakeWord]
    exact .word k
  | silent => exact .silent

theorem Comparison.SnakeWords.plain {k : Comparison} {words : List String}
    (h : k.SnakeWords words) : ∀ w ∈ words, Plain w := by
  cases h with
  | word k => cases k <;> decide
  | silent => nofun

theorem Condition.SnakeWords.spells {c : Condition} {words : List String} (h : c.SnakeWords words) :
    c.Spells (words.flatMap fun w => capitalizeChars w.toList) := by
  obtain ⟨tail, htail, rfl⟩ := h
  rw [List.flatMap_cons, List.flatMap_append, negationWord_eq]
  exact ⟨_, htail.spells, rfl⟩

theorem SnakeWords.spells {cs : List Clause} {words : List String} (h : SnakeWords cs words) :
    Spells cs (words.flatMap fun w => capitalizeChars w.toList) := by
  induction h with
  | nil => exact .nil
  | cons hc _ ih =>
    rw [List.flatMap_append, List.flatMap_append, joinWord_eq]
    exact .cons hc.spells ih

/-- Only fields can have letters of their own. -/
theorem SnakeWords.plain {fields : FieldMap} (hp : ∀ f ∈ fields.keys, Plain f) {cs : List Clause}
    (hk : ∀ c ∈ cs, Known fields c.condition) {words : List String} (h : SnakeWords cs words) :
    ∀ w ∈ words, Plain w := by
  induction h with
  | nil => nofun
  | @cons c cs _ _ hc _ ih =>
    obtain ⟨hc', hcs⟩ := List.forall_mem_cons.1 hk
    obtain ⟨tail, htail, rfl⟩ := hc
    have hjoin : ∀ w ∈ joinSnakeWords c.join, Plain w := by
      rcases c.join with _ | _ | _ <;> decide
    have hnegation : ∀ w ∈ negationSnakeWords c.condition.negated, Plain w := by
      cases c.condition.negated <;> decide
    have hfield : Plain c.condition.field := hp _ hc'.mem_keys
    intro w hw
    simp only [List.mem_append, List.mem_cons] at hw
    rcases hw with hw | (rfl | hw | hw) | hw
    · exact hjoin w hw
    · exact hfield
    · exact hnegation w hw
    · exact htail.plain w hw
    · exact ih hcs w hw

/-! ## The statement -/

/-- The reader takes all of a spelling, which is not empty, from its start. -/
theorem run_of_spells {fields : FieldMap} (hu : Unambiguous fields) (method : String)
    {clauses : List Clause} {text : List Char} (hne : clauses ≠ []) (hj : WellJoined clauses)
    (hk : ∀ c ∈ clauses, Known fields c.condition)
    (hg : clauses.IsChain fun c d => ¬ Swallows c d) (hs : Spells clauses text) :
    text ≠ [] ∧ Scan.run (.ofMap fields) method { rest := text } = .ok ⟨method, clauses⟩ := by
  obtain ⟨htext, s, hbehind, hrun⟩ :=
    run_of_spells_before hu method (halts_nil fields) hne hj hk hg hs
  rw [List.append_nil] at hrun
  exact ⟨htext, hrun.trans (hbehind.run _ method)⟩

/-- A method whose snake-case name is put together from clauses is called by the query that says
these clauses, and a bound repository answers it with their text. -/
theorem snakeName_reads_back {fields : FieldMap} (hu : Unambiguous fields)
    (hp : ∀ f ∈ fields.keys, Plain f) {clauses : List Clause} (hne : clauses ≠ [])
    (hj : WellJoined clauses) (hk : ∀ c ∈ clauses, Known fields c.condition)
    (hg : clauses.IsChain fun c d => ¬ Swallows c d) {words : List String}
    (hw : SnakeWords clauses words) :
    (∀ decl forwarded, decl.signature.name = snakeName words →
      Expansion.ForwardedMethod.ofDecl decl = .ok forwarded →
        forwarded.query = camel (snakeName words)) ∧
    Text.startsWith findBy.toList (camel (snakeName words)).toList ∧
    parse fields (camel (snakeName words)) = .ok ⟨camel (snakeName words), clauses⟩ ∧
    ∀ (p : Proxy) m args, p.target.metadata = some m → m.columnOfField = fields →
      clauses.length ≤ args.length →
      p.invoke (camel (snakeName words)) args =
        .ok ("SELECT * FROM " ++ m.table ++ " WHERE" ++
          String.join (List.zipWith Clause.render clauses args)) := by
  have hcamel := camel_snakeName (hw.plain hp hk)
  have hroute : Text.startsWith findBy.toList (camel (snakeName words)).toList := by
    rw [hcamel, String.toList_ofList, Text.startsWith_iff_prefix]
    exact List.prefix_append _ _
  have hparse : parse fields (camel (snakeName words)) =
      .ok ⟨camel (snakeName words), clauses⟩ := by
    obtain ⟨htext, hrun⟩ := run_of_spells hu (camel (snakeName words)) hne hj hk hg hw.spells
    rw [hcamel] at hrun ⊢
    rw [parse_eq_run fields htext, hrun]
  refine ⟨fun decl forwarded hname hforwarded => ?_, hroute, hparse, ?_⟩
  · unfold Expansion.ForwardedMethod.ofDecl at hforwarded
    cases harguments : decl.signature.params.mapM Expansion.argumentOfParam with
    | error e =>
      rw [harguments] at hforwarded
      cases hforwarded
    | ok arguments =>
      rw [harguments] at hforwarded
      cases hforwarded
      exact congrArg camel hname
  · rintro p m args hbound rfl hargs
    rw [Proxy.invoke, if_pos hroute, Repository.find, Repository.withMetadata, hbound]
    simp only [compile, hparse, Except.bind, Predicate.render, renderFrom_of_length_le _ hargs]
    rw [Except.map, selectText, String.append_assoc, String.append_assoc, String.append_assoc]

/-- Two clauses over fields with underscores in front, behind and between, one of them an equality
that is left out. -/
theorem snakeName_reads_back_two_clauses :
    let fields : FieldMap := .ofList [("_author__name", "AUTHOR"), ("year_2nd_", "YEAR")]
    let clauses : List Clause :=
      [⟨none, ⟨"_author__name", "AUTHOR", .isEqual, true⟩⟩,
       ⟨some .or, ⟨"year_2nd_", "YEAR", .lessOrEqual, false⟩⟩]
    snakeName ["_author__name", "not", "or", "year_2nd_", "less_or_equal"] =
        "find_by__author__name_not_or_year_2nd__less_or_equal" ∧
      camel "find_by__author__name_not_or_year_2nd__less_or_equal" =
        "findByAuthorNameNotOrYear2ndLessOrEqual" ∧
      parse fields "findByAuthorNameNotOrYear2ndLessOrEqual" =
        .ok ⟨"findByAuthorNameNotOrYear2ndLessOrEqual", clauses⟩ ∧
      ∀ (p : Proxy) m args, p.target.metadata = some m → m.columnOfField = fields →
        2 ≤ args.length → p.invoke "findByAuthorNameNotOrYear2ndLessOrEqual" args =
          .ok ("SELECT * FROM " ++ m.table ++ " WHERE" ++
            String.join (List.zipWith Clause.render clauses args)) := by
  intro fields clauses
  have hname : snakeName ["_author__name", "not", "or", "year_2nd_", "less_or_equal"] =
      "find_by__author__name_not_or_year_2nd__less_or_equal" := by decide
  have hcamel : camel "find_by__author__name_not_or_year_2nd__less_or_equal" =
      "findByAuthorNameNotOrYear2ndLessOrEqual" := by decide
  have hfields : Unambiguous fields := ⟨by decide, by decide⟩
  have hclauses : clauses ≠ [] := by decide
  have hfirst : Condition.SnakeWords ⟨"_author__name", "AUTHOR", .isEqual, true⟩
      ["_author__name", "not"] := ⟨[], .silent, rfl⟩
  have hsecond : Condition.SnakeWords ⟨"year_2nd_", "YEAR", .lessOrEqual, false⟩
      ["year_2nd_", "less_or_equal"] := ⟨_, .word .lessOrEqual, rfl⟩
  obtain ⟨-, -, hparse, hcall⟩ := snakeName_reads_back hfields (by decide) hclauses (by decide)
    (by decide) (by decide) (.cons (c := ⟨none, _⟩) hfirst (.cons (c := ⟨some .or, _⟩) hsecond .nil))
  rw [show joinSnakeWords none ++ (["_author__name", "not"] ++ (joinSnakeWords (some .or) ++
    (["year_2nd_", "less_or_equal"] ++ []))) =
      ["_author__name", "not", "or", "year_2nd_", "less_or_equal"] from rfl, hname, hcamel]
    at hparse hcall
  exact ⟨hname, hcamel, hparse, hcall⟩

end BeanKit.Query

import BeanKit.Expansion.Registration
import BeanKit.Proofs.Query.MethodName
import BeanKit.Proofs.Text.Paths
/-! # Names of registration functions

The function that registers a type is named for the kind of the declaration and for the type in snake
case, that is for the words of the type's name. `function_eq_iff_words`: two types share a function
exactly where they are of one kind and their names have the same words, however these are set apart
and whichever of their letters are capitals. Names in upper camel case are told apart by their words,
so that no two of them share a function. -/

namespace BeanKit.Text

/-! ## Letters in lower case -/

/-- A code point that comes before everything the runs lead to is not led to. -/
theorem shifted_eq_of_lt {runs : List CaseRun} {n target : Nat}
    (h : ∀ r ∈ runs, target < r.shift.apply r.first) (hn : CaseRun.shifted runs n = target) :
    n = target := by
  induction runs with
  | nil => exact hn
  | cons r rest ih =>
    obtain ⟨hr, hrest⟩ := List.forall_mem_cons.1 h
    rw [CaseRun.shifted] at hn
    split at hn
    · exact hn
    · rename_i hfirst
      split at hn
      · -- a run keeps the distance, so nothing in it ends up before its first code point does
        have hle : r.shift.apply r.first ≤ r.shift.apply n := by
          cases r.shift <;> simp only [Shift.apply] <;> omega
        omega
      · exact ih hrest hn

theorem eq_of_ofNat_eq {n : Nat} {ch : Char} (hch : ch ≠ '\x00') (h : Char.ofNat n = ch) :
    n = ch.toNat := by
  by_cases hn : n.isValidChar
  · rw [← h, Char.toNat_ofNat, if_pos hn]
  · rw [Char.ofNat, dif_neg hn] at h
    exact absurd h.symm hch

/-- No character but the underscore has it as its lower case. -/
theorem firstLower_ne_underscore {ch : Char} (h : ch ≠ '_') : firstLower ch ≠ '_' := by
  intro hlower
  rw [firstLower, toLower, mapCase] at hlower
  split at hlower
  · rename_i codes hcodes
    obtain ⟨before, after, hsplit, -⟩ := List.lookup_eq_some_iff.1 hcodes
    obtain ⟨-, rfl⟩ : ch.toNat = 0x130 ∧ codes = [0x69, 0x307] := by
      have hmem : (ch.toNat, codes) ∈ lowerExpansions := by rw [hsplit]; simp
      simpa [lowerExpansions] using hmem
    exact absurd (show Char.ofNat 0x69 = '_' from hlower) (by decide)
  · have hruns : ∀ r ∈ lowerRuns, '_'.toNat < r.shift.apply r.first := by decide +kernel
    have hnat := eq_of_ofNat_eq (by decide) hlower
    exact h (Char.toNat_inj.1 (shifted_eq_of_lt hruns hnat))

end BeanKit.Text

namespace BeanKit.Naming

open BeanKit.Text

/-! ## The words of a name -/

/-- Whether a character starts a word inside a name: a capital between neighbours one of which is a
small letter. -/
def opensWord (before ch : Char) (rest : List Char) : Bool :=
  isUppercase ch && (isLowercase before || rest.head?.any isLowercase)

/-- What is left of a word behind the character `before`, and the words behind it. A word ends at an
underscore, and in front of a character that starts another one. -/
def wordsFrom (before : Char) : List Char → List (List Char)
  | [] => [[]]
  | ch :: rest =>
    if ch = '_' then [] :: wordsFrom ch rest
    else if opensWord before ch rest then [] :: consFirst (firstLower ch) (wordsFrom ch rest)
    else consFirst (firstLower ch) (wordsFrom ch rest)

/-- The words of a name with their characters lowered. -/
def wordsOf : List Char → List (List Char)
  | [] => [[]]
  | ch :: rest =>
    if ch = '_' then [] :: wordsFrom ch rest else consFirst (firstLower ch) (wordsFrom ch rest)

/-- The words of a name with their characters lowered. -/
def words (name : String) : List (List Char) := wordsOf name.toList

theorem wordsFrom_ne_nil (before : Char) (cs : List Char) : wordsFrom before cs ≠ [] := by
  cases cs with
  | nil => simp [wordsFrom]
  | cons ch rest =>
    rw [wordsFrom]
    split
    · simp
    · split
      · simp
      · exact consFirst_ne_nil _ _

theorem wordsOf_ne_nil (cs : List Char) : wordsOf cs ≠ [] := by
  cases cs with
  | nil => simp [wordsOf]
  | cons ch rest =>
    rw [wordsOf]
    split
    · simp
    · exact consFirst_ne_nil _ _

/-- A character goes on with a word without an underscore in it. -/
theorem underscore_not_mem_consFirst {ch : Char} {pieces : List (List Char)} (hch : ch ≠ '_')
    (h : ∀ piece ∈ pieces, '_' ∉ piece) :
    ∀ piece ∈ consFirst (firstLower ch) pieces, '_' ∉ piece := by
  have hlower := firstLower_ne_underscore hch
  cases pieces with
  | nil => simpa [consFirst] using hlower.symm
  | cons first more =>
    obtain ⟨hfirst, hmore⟩ := List.forall_mem_cons.1 h
    exact List.forall_mem_cons.2 ⟨List.not_mem_cons_of_ne_of_not_mem hlower.symm hfirst, hmore⟩

theorem underscore_not_mem_wordsFrom (before : Char) (cs : List Char) :
    ∀ word ∈ wordsFrom before cs, '_' ∉ word := by
  induction cs generalizing before with
  | nil => simp [wordsFrom]
  | cons ch rest ih =>
    rw [wordsFrom]
    split
    · exact List.forall_mem_cons.2 ⟨List.not_mem_nil, ih ch⟩
    · rename_i hch
      split
      · exact List.forall_mem_cons.2 ⟨List.not_mem_nil, underscore_not_mem_consFirst hch (ih ch)⟩
      · exact underscore_not_mem_consFirst hch (ih ch)

theorem underscore_not_mem_wordsOf (cs : List Char) : ∀ word ∈ wordsOf cs, '_' ∉ word := by
  cases cs with
  | nil => simp [wordsOf]
  | cons ch rest =>
    rw [wordsOf]
    split
    · exact List.forall_mem_cons.2 ⟨List.not_mem_nil, underscore_not_mem_wordsFrom ch rest⟩
    · rename_i hch
      exact underscore_not_mem_consFirst hch (underscore_not_mem_wordsFrom ch rest)

/-! ## Snake case, word by word -/

theorem snakeFrom_eq (before : Char) (cs : List Char) :
    snakeFrom before cs = ['_'].intercalate (wordsFrom before cs) := by
  induction cs generalizing before with
  | nil => rfl
  | cons ch rest ih =>
    have hne := wordsFrom_ne_nil ch rest
    rw [snakeFrom, wordsFrom, ih]
    by_cases hu : ch = '_'
    · have hplain : isUppercase '_' = false ∧ firstLower '_' = '_' := by decide
      rw [if_pos hu, List.intercalate_cons_of_ne_nil hne, hu]
      simp [hplain]
    · rw [if_neg hu]
      by_cases hopens : opensWord before ch rest
      · rw [if_pos hopens, List.intercalate_cons_of_ne_nil (consFirst_ne_nil _ _),
          intercalate_consFirst _ hne]
        exact congrArg (· ++ _) (if_pos hopens)
      · rw [if_neg hopens, intercalate_consFirst _ hne]
        exact congrArg (· ++ _) (if_neg hopens)

theorem snakeChars_eq (cs : List Char) : snakeChars cs = ['_'].intercalate (wordsOf cs) := by
  cases cs with
  | nil => rfl
  | cons ch rest =>
    have hne := wordsFrom_ne_nil ch rest
    rw [snakeChars, wordsOf, snakeFrom_eq]
    by_cases hu : ch = '_'
    · have hlower : firstLower '_' = '_' := by decide
      rw [if_pos hu, List.intercalate_cons_of_ne_nil hne, hu, hlower]
      rfl
    · rw [if_neg hu, intercalate_consFirst _ hne]

/-- The words of a name are what stands between the underscores of its snake case. -/
theorem splitOn_snakeChars (cs : List Char) : splitOn '_' (snakeChars cs) = wordsOf cs := by
  rw [snakeChars_eq]
  exact splitOn_intercalate (wordsOf_ne_nil cs) (underscore_not_mem_wordsOf cs)

theorem snake_eq_iff_words (a b : String) : snake a = snake b ↔ words a = words b := by
  rw [snake, snake, String.ofList_inj]
  constructor
  · intro h
    rw [words, words, ← splitOn_snakeChars, ← splitOn_snakeChars, h]
  · intro h
    rw [snakeChars_eq, snakeChars_eq]
    exact congrArg _ h

/-! ## Upper camel case -/

/-- Behind the character `before` stand letters and digits of ASCII, each capital beside a small
letter. -/
def Cased (before : Char) : List Char → Bool
  | [] => true
  | ch :: rest =>
    ch.isAlphanum && (!ch.isUpper || before.isLower || rest.head?.any Char.isLower) && Cased ch rest

/-- A name in upper camel case: letters and digits of ASCII that start with a capital, and beside
every other capital a small letter. -/
def UpperCamel (name : String) : Bool :=
  match name.toList with
  | [] => false
  | ch :: rest => ch.isUpper && Cased ch rest

/-- In ASCII the capitals are those with a lower case of their own, which leads back to them. -/
theorem cases_of_isAlphanum {ch : Char} (h : ch.isAlphanum) :
    isUppercase ch = ch.isUpper ∧ isLowercase ch = ch.isLower ∧ ch ≠ '_' ∧
      if ch.isUpper then toUpper (firstLower ch) = [ch] else firstLower ch = ch := by
  have hall : ∀ n < 128, (Char.ofNat n).isAlphanum →
      isUppercase (Char.ofNat n) = (Char.ofNat n).isUpper ∧
      isLowercase (Char.ofNat n) = (Char.ofNat n).isLower ∧ Char.ofNat n ≠ '_' ∧
      if (Char.ofNat n).isUpper then toUpper (firstLower (Char.ofNat n)) = [Char.ofNat n]
      else firstLower (Char.ofNat n) = Char.ofNat n := by
    decide +kernel
  have hch := hall ch.toNat (Query.toNat_lt_of_isAlphanum h)
  rw [Char.ofNat_toNat] at hch
  exact hch h

theorem any_isLowercase_of_cased {before : Char} {cs : List Char} (h : Cased before cs) :
    cs.head?.any isLowercase = cs.head?.any Char.isLower := by
  cases cs with
  | nil => rfl
  | cons ch rest =>
    rw [Cased, Bool.and_eq_true, Bool.and_eq_true] at h
    exact (cases_of_isAlphanum h.1.1).2.1

/-- A word of a camel-case name is got back by raising its first character: the capital that it
starts with was lowered. What follows the character `before` goes on with the word it stands in. -/
theorem wordsFrom_of_cased {before : Char} {cs : List Char} (hbefore : before.isAlphanum)
    (h : Cased before cs) :
    ∃ first more, wordsFrom before cs = first :: more ∧
      first ++ more.flatMap capitalizeWord = cs := by
  induction cs generalizing before with
  | nil => exact ⟨[], [], rfl, rfl⟩
  | cons ch rest ih =>
    rw [Cased, Bool.and_eq_true, Bool.and_eq_true] at h
    obtain ⟨⟨hch, hbeside⟩, hrest⟩ := h
    obtain ⟨hupper, -, hu, hlower⟩ := cases_of_isAlphanum hch
    obtain ⟨first, more, hwords, hraised⟩ := ih hch hrest
    rw [wordsFrom, if_neg hu, hwords]
    by_cases hcapital : ch.isUpper
    · -- a small letter beside the capital makes it the start of a word
      have hopens : opensWord before ch rest = true := by
        rw [opensWord, hupper, (cases_of_isAlphanum hbefore).2.1, any_isLowercase_of_cased hrest]
        simpa [hcapital] using hbeside
      rw [if_pos hopens]
      rw [if_pos hcapital] at hlower
      refine ⟨[], (firstLower ch :: first) :: more, rfl, ?_⟩
      rw [List.flatMap_cons, capitalizeWord, hlower, List.nil_append, List.append_assoc, hraised]
      rfl
    · have hopens : opensWord before ch rest = false := by
        rw [opensWord, hupper, Bool.eq_false_iff.2 hcapital, Bool.false_and]
      rw [if_neg (Bool.eq_false_iff.1 hopens)]
      rw [if_neg hcapital] at hlower
      refine ⟨firstLower ch :: first, more, rfl, ?_⟩
      rw [hlower, List.cons_append, hraised]

/-- A name in upper camel case is got back from its snake case. -/
theorem capitalize_snake {name : String} (h : UpperCamel name) : capitalize (snake name) = name := by
  unfold UpperCamel at h
  split at h
  · cases h
  · rename_i ch rest hname
    obtain ⟨hcapital, hrest⟩ := Bool.and_eq_true_iff.1 h
    have hch : ch.isAlphanum := by
      rw [Char.isAlphanum, Char.isAlpha, hcapital, Bool.true_or, Bool.true_or]
    obtain ⟨-, -, hu, hlower⟩ := cases_of_isAlphanum hch
    obtain ⟨first, more, hwords, hraised⟩ := wordsFrom_of_cased hch hrest
    rw [if_pos hcapital] at hlower
    rw [capitalize, capitalizeChars, snake, String.toList_ofList, splitOn_snakeChars, hname, wordsOf,
      if_neg hu, hwords, ← String.toList_inj, String.toList_ofList, hname]
    rw [consFirst, List.flatMap_cons, capitalizeWord, hlower, List.append_assoc, hraised]
    rfl

end BeanKit.Naming

namespace BeanKit.Expansion

open BeanKit.Declaration BeanKit.Naming

/-! ## Functions of two types -/

theorem Registered.word_inj {kind kind' : Registered} (h : kind.word = kind'.word) :
    kind = kind' := by
  cases kind <;> cases kind' <;> first | rfl | exact absurd h (by decide)

theorem underscore_not_mem_word (kind : Registered) : '_' ∉ kind.word.toList := by
  cases kind <;> decide

theorem toList_registrationName (kind : Registered) (type : String) :
    (registrationName kind type).toList =
      "__lorn_di_register_".toList ++ (kind.word.toList ++ '_' :: (snake type).toList) := by
  have hmark : "_".toList = ['_'] := rfl
  unfold registrationName
  rw [String.toList_append, String.toList_append, String.toList_append, List.append_assoc,
    List.append_assoc, hmark, List.singleton_append]

/-- The kind goes up to the first underscore, and what follows it is the type. -/
theorem registrationName_eq_iff {kind kind' : Registered} {a b : String} :
    registrationName kind a = registrationName kind' b ↔ kind = kind' ∧ snake a = snake b := by
  rw [← String.toList_inj, toList_registrationName, toList_registrationName,
    List.append_cancel_left_eq]
  constructor
  · intro h
    obtain ⟨hkind, htype⟩ := Text.append_cons_inj_of_not_mem (underscore_not_mem_word kind)
      (underscore_not_mem_word kind') h
    exact ⟨Registered.word_inj (String.toList_inj.1 hkind), String.toList_inj.1 htype⟩
  · rintro ⟨rfl, h⟩
    rw [h]

/-- Types of whatever kinds have functions with one name exactly where they are of one kind and their
names have the same words. In upper camel case only a name itself has the words that it has. -/
theorem function_eq_iff_words {kind kind' : Registered} {a b : String} (ha : isRaw a = false)
    (hb : isRaw b = false) :
    ∃ name name', kind.function a = .ok name ∧ kind'.function b = .ok name' ∧
      (name = name' ↔ kind = kind' ∧ words a = words b) ∧
      (UpperCamel a → UpperCamel b → (name = name' ↔ kind = kind' ∧ a = b)) := by
  refine ⟨_, _, Registered.function_eq_ok_iff.2 ⟨ha, rfl⟩,
    Registered.function_eq_ok_iff.2 ⟨hb, rfl⟩, ?_, ?_⟩
  · rw [registrationName_eq_iff, snake_eq_iff_words]
  · intro hca hcb
    have hsnake : snake a = snake b ↔ a = b := by
      constructor
      · intro h
        rw [← capitalize_snake hca, ← capitalize_snake hcb, h]
      · rintro rfl
        rfl
    rw [registrationName_eq_iff, hsnake]

/-- Two interfaces in upper camel case. -/
theorem function_eq_iff_words_clients :
    isRaw "HttpClient" = false ∧ isRaw "HttpClient2Go" = false ∧
      words "HttpClient2Go" = ["http".toList, "client2".toList, "go".toList] ∧
      UpperCamel "HttpClient" ∧ UpperCamel "HttpClient2Go" ∧
      ∃ name name', Registered.interface.function "HttpClient" = .ok name ∧
        Registered.interface.function "HttpClient2Go" = .ok name' ∧ name ≠ name' := by
  have hraw : isRaw "HttpClient" = false := by decide
  have hraw' : isRaw "HttpClient2Go" = false := by decide
  have hcamel : UpperCamel "HttpClient" := by decide
  have hcamel' : UpperCamel "HttpClient2Go" := by decide
  obtain ⟨name, name', hname, hname', -, heq⟩ :=
    @function_eq_iff_words .interface .interface _ _ hraw hraw'
  refine ⟨hraw, hraw', by decide, hcamel, hcamel', name, name', hname, hname', fun h => ?_⟩
  exact absurd ((heq hcamel hcamel').1 h).2 (by decide)

/-- A name that a type can be declared under, other than a raw one. -/
def IsTypeName (name : String) : Bool :=
  name.toList.head?.any isWordStart && name.toList.all isWordChar && isIdentifier name

/-- An acronym that is written in capitals has the words of one that is written in small letters. -/
theorem acronyms_share_function :
    IsTypeName "HttpClient" ∧ IsTypeName "HTTPClient" ∧ "HttpClient" ≠ "HTTPClient" ∧
      Registered.interface.function "HttpClient" = Registered.interface.function "HTTPClient" ∧
      ¬ ∀ (kind : Registered) (a b : String), IsTypeName a → IsTypeName b → a ≠ b →
        kind.function a ≠ kind.function b := by
  have htype : IsTypeName "HttpClient" := by decide
  have htype' : IsTypeName "HTTPClient" := by decide
  have hne : "HttpClient" ≠ "HTTPClient" := by decide
  have hshared : Registered.interface.function "HttpClient" =
      Registered.interface.function "HTTPClient" := by
    have hname : registrationName .interface "HttpClient" =
        registrationName .interface "HTTPClient" := registrationName_eq_iff.2 ⟨rfl, by decide⟩
    rw [Registered.function_eq_ok_iff.2 ⟨by decide, hname⟩,
      Registered.function_eq_ok_iff.2 ⟨by decide, rfl⟩]
  exact ⟨htype, htype', hne, hshared, fun h => h .interface _ _ htype htype' hne hshared⟩

end BeanKit.Expansion

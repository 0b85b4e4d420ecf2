import BeanKit.Proofs.Query.Acceptance
import BeanKit.Proofs.Query.Reading
import BeanKit.Proofs.Text.Cutting
/-!
# Two ways to raise a letter

A method in snake case is called in camel case, and a field stands in a query name capitalised. Both
take the underscores out and raise the letter behind each of them, but camel case raises a letter to
the first character of its upper case, and a capitalised word starts with the whole of it.

`camel_find_by_iff`: the method named `find_by_` and a field calls `findBy` and the capitalised field
exactly where the upper case of every letter that is raised is one character. Where it is longer, the
method does not ask for the field at all.
-/

namespace BeanKit.Text

/-! ## Letters in upper case -/

theorem toUpper_ne_nil (ch : Char) : toUpper ch ≠ [] := by
  have hall : ∀ e ∈ upperExpansions, e.2 ≠ [] := by decide
  unfold toUpper mapCase
  split
  · rename_i codes hcodes
    obtain ⟨before, after, hsplit, -⟩ := List.lookup_eq_some_iff.1 hcodes
    have hne := hall (ch.toNat, codes) (by rw [hsplit]; simp)
    simpa using hne
  · simp

theorem toUpper_eq_cons (ch : Char) : ∃ more, toUpper ch = firstUpper ch :: more := by
  obtain ⟨first, more, hupper⟩ := List.exists_cons_of_ne_nil (toUpper_ne_nil ch)
  exact ⟨more, by rw [firstUpper, hupper]; rfl⟩

end BeanKit.Text

namespace BeanKit.Naming

open BeanKit.Text

/-! ## Camel case, word by word -/

/-- A word with its first character raised to the first character of its upper case. -/
def raiseWord : List Char → List Char
  | [] => []
  | ch :: rest => firstUpper ch :: rest

/-- A name with the underscores taken out and each word between them raised. -/
def raiseChars (cs : List Char) : List Char := (splitOn '_' cs).flatMap raiseWord

theorem raiseChars_append (cs ds : List Char) :
    raiseChars (cs ++ '_' :: ds) = raiseChars cs ++ raiseChars ds := by
  rw [raiseChars, splitOn_append, List.flatMap_append, raiseChars, raiseChars]

/-- What is raised is the start of each word; the first word starts raised or not. -/
theorem camelFrom_of_splitOn {cs first : List Char} {more : List (List Char)}
    (hs : splitOn '_' cs = first :: more) :
    camelFrom true cs = raiseWord first ++ more.flatMap raiseWord ∧
      camelFrom false cs = first ++ more.flatMap raiseWord := by
  induction cs generalizing first more with
  | nil =>
    obtain ⟨rfl, rfl⟩ := List.cons.inj (show [[]] = first :: more from hs)
    exact ⟨rfl, rfl⟩
  | cons ch cs ih =>
    obtain ⟨first', more', hs'⟩ := List.exists_cons_of_ne_nil (splitOn_ne_nil '_' cs)
    obtain ⟨hraised, hplain⟩ := ih hs'
    rw [splitOn, hs'] at hs
    -- An underscore raises what follows; any other character starts, or goes on with, a word.
    by_cases hu : ch = '_'
    · rw [if_pos hu] at hs
      obtain ⟨rfl, rfl⟩ := List.cons.inj hs
      simp only [camelFrom, if_pos hu, hraised, raiseWord, List.flatMap_cons, List.nil_append,
        and_self]
    · rw [if_neg hu] at hs
      obtain ⟨rfl, rfl⟩ := List.cons.inj (show (ch :: first') :: more' = first :: more from hs)
      simp only [camelFrom, if_neg hu, hplain, raiseWord, if_true, Bool.false_eq_true, if_false,
        List.cons_append, and_self]

theorem camelFrom_true (cs : List Char) : camelFrom true cs = raiseChars cs := by
  obtain ⟨first, more, hs⟩ := List.exists_cons_of_ne_nil (splitOn_ne_nil '_' cs)
  rw [(camelFrom_of_splitOn hs).1, raiseChars, hs, List.flatMap_cons]

/-! ## Where both ways agree -/

/-- Every word of a name starts with a character whose upper case is one character. -/
def RaisesToOne (name : String) : Prop :=
  ∀ word ∈ splitOn '_' name.toList, ∀ ch ∈ word.head?, (toUpper ch).length = 1

instance (name : String) : Decidable (RaisesToOne name) :=
  have (word : List Char) : Decidable (∀ ch ∈ word.head?, (toUpper ch).length = 1) :=
    Option.decidableForallMem word.head?
  List.decidableBAll _ _

theorem length_raiseWord_le (word : List Char) :
    (raiseWord word).length ≤ (capitalizeWord word).length := by
  cases word with
  | nil => exact Nat.le_refl _
  | cons ch rest =>
    obtain ⟨more, hupper⟩ := toUpper_eq_cons ch
    simp only [raiseWord, capitalizeWord, hupper, List.cons_append, List.length_cons,
      List.length_append]
    omega

theorem length_flatMap_raiseWord_le (words : List (List Char)) :
    (words.flatMap raiseWord).length ≤ (words.flatMap capitalizeWord).length := by
  rw [List.length_flatMap, List.length_flatMap]
  exact List.sum_le_sum fun word _ => length_raiseWord_le word

theorem raiseWord_eq_iff (word : List Char) :
    raiseWord word = capitalizeWord word ↔ ∀ ch ∈ word.head?, (toUpper ch).length = 1 := by
  cases word with
  | nil => simp [raiseWord, capitalizeWord]
  | cons ch rest =>
    obtain ⟨more, hupper⟩ := toUpper_eq_cons ch
    simp [raiseWord, capitalizeWord, hupper]

/-- No word can make up for a longer one: raising is never longer than capitalising. -/
theorem flatMap_raiseWord_eq_iff (words : List (List Char)) :
    words.flatMap raiseWord = words.flatMap capitalizeWord ↔
      ∀ word ∈ words, raiseWord word = capitalizeWord word := by
  constructor
  · intro h
    induction words with
    | nil => nofun
    | cons word words ih =>
      have hword := length_raiseWord_le word
      have hwords := length_flatMap_raiseWord_le words
      have hlength := congrArg List.length h
      rw [List.flatMap_cons, List.flatMap_cons] at h
      simp only [List.flatMap_cons, List.length_append] at hlength
      obtain ⟨hfirst, hrest⟩ := List.append_inj h (by omega)
      exact List.forall_mem_cons.2 ⟨hfirst, ih hrest⟩
  · intro h
    induction words with
    | nil => rfl
    | cons word words ih =>
      obtain ⟨hword, hwords⟩ := List.forall_mem_cons.1 h
      rw [List.flatMap_cons, List.flatMap_cons, hword, ih hwords]

theorem raiseChars_eq_iff (name : String) :
    raiseChars name.toList = capitalizeChars name.toList ↔ RaisesToOne name := by
  rw [raiseChars, capitalizeChars, flatMap_raiseWord_eq_iff, RaisesToOne]
  exact forall₂_congr fun word _ => raiseWord_eq_iff word

/-- A letter inside a word is not raised. -/
example : RaisesToOne "main_straße" ∧ ¬ RaisesToOne "main_ß" := by decide

end BeanKit.Naming

namespace BeanKit.Query

open Naming

theorem camel_find_by (f : String) :
    camel ("find_by_" ++ f) = String.ofList (findBy.toList ++ raiseChars f.toList) := by
  rw [camel, String.toList_append, ← camelFrom_true]
  rfl

theorem findBy_capitalize (f : String) :
    findBy ++ capitalize f = String.ofList (findBy.toList ++ capitalizeChars f.toList) := by
  rw [← String.toList_inj, String.toList_append, capitalize, String.toList_ofList,
    String.toList_ofList]

/-- A name that asks for a field alone is spelled by it, perhaps with the word for equality. -/
theorem text_of_parse_single {fields : FieldMap} {method f column : String} {text : List Char}
    (hm : method.toList = findBy.toList ++ text)
    (h : parse fields method = .ok ⟨method, [⟨none, ⟨f, column, .isEqual, false⟩⟩]⟩) :
    ∃ tail, text = capitalizeChars f.toList ++ tail := by
  obtain ⟨text', hm', -, -, -, -, hs⟩ := accounts_parse h
  rw [hm, List.append_cancel_left_eq] at hm'
  subst hm'
  cases hs with
  | cons hc hnil =>
    obtain ⟨tail, -, rfl⟩ := hc
    cases hnil
    exact ⟨tail, by simp [joinWord, negationWord]⟩

/-- The method named `find_by_` and a field is called by `findBy` and the capitalised field exactly
where every word of the field starts with a character whose upper case is one character. It asks for
the field exactly where it is called so, and where that name asks for the field. -/
theorem camel_find_by_iff (f : String) :
    (camel ("find_by_" ++ f) = findBy ++ capitalize f ↔ RaisesToOne f) ∧
      ∀ (fields : FieldMap) (column : String),
        parse fields (camel ("find_by_" ++ f)) =
            .ok ⟨camel ("find_by_" ++ f), [⟨none, ⟨f, column, .isEqual, false⟩⟩]⟩ ↔
          RaisesToOne f ∧ parse fields (findBy ++ capitalize f) =
            .ok ⟨findBy ++ capitalize f, [⟨none, ⟨f, column, .isEqual, false⟩⟩]⟩ := by
  have hname : camel ("find_by_" ++ f) = findBy ++ capitalize f ↔ RaisesToOne f := by
    rw [camel_find_by, findBy_capitalize, String.ofList_inj, List.append_cancel_left_eq,
      raiseChars_eq_iff]
  refine ⟨hname, fun fields column => ⟨fun h => ?_, fun ⟨hone, h⟩ => ?_⟩⟩
  · have htext : (camel ("find_by_" ++ f)).toList = findBy.toList ++ raiseChars f.toList := by
      rw [camel_find_by, String.toList_ofList]
    obtain ⟨tail, htail⟩ := text_of_parse_single htext h
    -- what is raised is not longer than what is capitalised, so nothing is left for the tail
    have hshort : (raiseChars f.toList).length ≤ (capitalizeChars f.toList).length :=
      length_flatMap_raiseWord_le _
    rw [htail, List.length_append] at hshort
    obtain rfl : tail = [] := List.length_eq_zero_iff.1 (by omega)
    have hone : RaisesToOne f := (raiseChars_eq_iff f).1 (by rw [htail, List.append_nil])
    rw [hname.2 hone] at h
    exact ⟨hone, h⟩
  · rw [hname.2 hone]
    exact h

/-- A sharp s is two capital letters in upper case: the method named after a field of this name asks
for a field that there is not. -/
theorem camel_find_by_sharp_s :
    camel ("find_by_" ++ "ß") = "findByS" ∧ findBy ++ capitalize "ß" = "findBySS" ∧
      parse (.ofList [("ß", "SIZE")]) "findByS" = .error (.unknownField "findByS" 6) ∧
      ¬ ∀ f : String, camel ("find_by_" ++ f) = findBy ++ capitalize f := by
  have hcamel : camel ("find_by_" ++ "ß") = "findByS" := by decide
  have hspelled : findBy ++ capitalize "ß" = "findBySS" := by decide
  refine ⟨hcamel, hspelled, ?_, fun h => ?_⟩
  · have hname : "findByS".toList = findBy.toList ++ "S".toList := by decide
    have hindex : FieldIndex.ofMap (.ofList [("ß", "SIZE")]) = [⟨"SS".toList, "ß", "SIZE"⟩] := by
      cbv
    rw [parse_of_toList hname (by decide), hindex]
    exact Scan.run_stuck (by decide) rfl
  · have hsharp := h "ß"
    rw [hcamel, hspelled] at hsharp
    exact absurd hsharp (by decide)

end BeanKit.Query

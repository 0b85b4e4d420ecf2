import BeanKit.Text.Pieces
import Mathlib
/-!
# Paths

A path is a text of pieces with a two-character separator between them. Splitting a text never loses
anything, and gives the pieces back where the separator's first character stands in none of them. Words
that a text ends in can be taken away from it, and what is left does not depend on how many there were.
-/

namespace BeanKit.Text

/-! ## Pieces between pairs -/

section Pairs

variable {a b c : Char} {text piece tail : List Char} {pieces rest : List (List Char)}

theorem consFirst_ne_nil (c : Char) (pieces : List (List Char)) : consFirst c pieces ≠ [] := by
  cases pieces <;> simp [consFirst]

theorem splitOnPair_ne_nil (a b : Char) (text : List Char) : splitOnPair a b text ≠ [] := by
  unfold splitOnPair
  split
  · simp
  · simp
  · split
    · simp
    · exact consFirst_ne_nil _ _

theorem intercalate_consFirst {sep : List Char} (c : Char) (hne : pieces ≠ []) :
    sep.intercalate (consFirst c pieces) = c :: sep.intercalate pieces := by
  obtain ⟨first, more, rfl⟩ := List.exists_cons_of_ne_nil hne
  cases more with
  | nil => simp [consFirst]
  | cons next more => simp [consFirst, List.intercalate_cons_cons]

/-- The pieces of a text, with the separators between them again, are the text. -/
theorem intercalate_splitOnPair (a b : Char) (text : List Char) :
    [a, b].intercalate (splitOnPair a b text) = text := by
  fun_induction splitOnPair a b text with
  | case1 => simp
  | case2 c => simp
  | case3 c d rest hpair ih =>
    obtain ⟨rfl, rfl⟩ := hpair
    rw [List.intercalate_cons_of_ne_nil (splitOnPair_ne_nil _ _ _), ih]
    rfl
  | case4 c d rest hpair ih =>
    rw [intercalate_consFirst _ (splitOnPair_ne_nil _ _ _), ih]

/-- The pieces of one list and then those of another. -/
theorem intercalate_append {sep : List Char} (hne : pieces ≠ []) (hne' : rest ≠ []) :
    sep.intercalate (pieces ++ rest) = sep.intercalate pieces ++ sep ++ sep.intercalate rest := by
  induction pieces with
  | nil => exact absurd rfl hne
  | cons piece more ih =>
    cases more with
    | nil => simp [List.intercalate_cons_of_ne_nil hne']
    | cons next more =>
      rw [List.cons_append, List.cons_append, List.intercalate_cons_cons, List.intercalate_cons_cons,
        ← List.cons_append, ih (List.cons_ne_nil _ _)]
      simp only [List.append_assoc]

theorem mem_of_mem_intercalate {sep : List Char} (h : c ∈ sep.intercalate pieces) :
    (∃ piece ∈ pieces, c ∈ piece) ∨ c ∈ sep := by
  induction pieces with
  | nil => exact absurd h List.not_mem_nil
  | cons piece more ih =>
    cases more with
    | nil =>
      rw [List.intercalate_singleton] at h
      exact .inl ⟨piece, List.mem_cons_self, h⟩
    | cons next more =>
      rw [List.intercalate_cons_cons, List.mem_append, List.mem_append] at h
      rcases h with (hpiece | hsep) | hmore
      · exact .inl ⟨piece, List.mem_cons_self, hpiece⟩
      · exact .inr hsep
      · refine (ih hmore).imp_left ?_
        rintro ⟨other, hother, hc⟩
        exact ⟨other, List.mem_cons_of_mem _ hother, hc⟩

theorem splitOnPair_cons_of_ne (b : Char) (text : List Char) (h : c ≠ a) :
    splitOnPair a b (c :: text) = consFirst c (splitOnPair a b text) := by
  cases text with
  | nil => rfl
  | cons d text =>
    rw [splitOnPair, if_neg]
    exact fun hpair => h hpair.1

theorem splitOnPair_pair (a b : Char) (text : List Char) :
    splitOnPair a b ([a, b] ++ text) = [] :: splitOnPair a b text := by
  rw [List.cons_append, List.cons_append, List.nil_append, splitOnPair, if_pos ⟨rfl, rfl⟩]

/-- The first piece goes as far as the separator's first character does not stand. -/
theorem splitOnPair_append (h : a ∉ piece) (htail : splitOnPair a b tail = [] :: rest) :
    splitOnPair a b (piece ++ tail) = piece :: rest := by
  induction piece with
  | nil => exact htail
  | cons c piece ih =>
    obtain ⟨hc, hpiece⟩ := not_or.1 (mt List.mem_cons.2 h)
    rw [List.cons_append, splitOnPair_cons_of_ne _ _ (Ne.symm hc), ih hpiece]
    rfl

theorem splitOnPair_intercalate_append (hne : pieces ≠ []) (h : ∀ p ∈ pieces, a ∉ p)
    (htail : splitOnPair a b tail = [] :: rest) :
    splitOnPair a b ([a, b].intercalate pieces ++ tail) = pieces ++ rest := by
  induction pieces with
  | nil => exact absurd rfl hne
  | cons piece more ih =>
    obtain ⟨hpiece, hmore⟩ := List.forall_mem_cons.1 h
    cases more with
    | nil =>
      rw [List.intercalate_singleton]
      exact splitOnPair_append hpiece htail
    | cons next more =>
      rw [List.intercalate_cons_cons, List.append_assoc, List.append_assoc,
        splitOnPair_append hpiece (splitOnPair_pair a b _), ih (List.cons_ne_nil _ _) hmore]
      rfl

/-- A list of pieces is got back from its text. -/
theorem splitOnPair_intercalate (hne : pieces ≠ []) (h : ∀ p ∈ pieces, a ∉ p) :
    splitOnPair a b ([a, b].intercalate pieces) = pieces := by
  have hsplit := splitOnPair_intercalate_append hne h (show splitOnPair a b [] = [] :: [] from rfl)
  rwa [List.append_nil, List.append_nil] at hsplit

/-- A text starts with given pieces if it is their text, or goes on with a separator behind it. -/
theorem prefix_splitOnPair_iff (hne : pieces ≠ []) (h : ∀ p ∈ pieces, a ∉ p) :
    pieces <+: splitOnPair a b text ↔
      text = [a, b].intercalate pieces ∨ [a, b].intercalate pieces ++ [a, b] <+: text := by
  constructor
  · rintro ⟨rest, hrest⟩
    have htext := intercalate_splitOnPair a b text
    rw [← hrest] at htext
    cases rest with
    | nil =>
      rw [List.append_nil] at htext
      exact .inl htext.symm
    | cons piece rest =>
      rw [intercalate_append hne (List.cons_ne_nil _ _)] at htext
      exact .inr ⟨_, htext⟩
  · rintro (rfl | ⟨more, rfl⟩)
    · rw [splitOnPair_intercalate hne h]
    · rw [List.append_assoc]
      exact ⟨_, (splitOnPair_intercalate_append hne h (splitOnPair_pair a b more)).symm⟩

end Pairs

/-! ## Words at the end -/

section Tails

variable {tail text : List Char}

theorem dropTails_go_flatten (hne : tail ≠ []) (h : ¬ tail <+: text) {k fuel : Nat} (hk : k ≤ fuel) :
    dropTails.go fuel tail ((List.replicate k tail).flatten ++ text) = text := by
  obtain ⟨w, word, rfl⟩ := List.exists_cons_of_ne_nil hne
  induction k generalizing fuel with
  | zero =>
    cases fuel with
    | zero => rfl
    | succ fuel =>
      simp only [List.replicate_zero, List.flatten_nil, List.nil_append, dropTails.go,
        after?_eq_none_iff.2 h]
  | succ k ih =>
    obtain ⟨fuel, rfl⟩ := Nat.exists_eq_add_one_of_ne_zero (by omega : fuel ≠ 0)
    rw [List.replicate_succ, List.flatten_cons, List.append_assoc]
    simp only [dropTails.go, after?_append]
    exact ih (Nat.le_of_succ_le_succ hk)

theorem reverse_flatten_replicate (k : Nat) (tail : List Char) :
    (List.replicate k tail).flatten.reverse = (List.replicate k tail.reverse).flatten := by
  rw [List.reverse_flatten, List.map_replicate, List.reverse_replicate]

/-- However often a word has been put behind a text that does not end in it, the text is got back. -/
theorem dropTails_append (hne : tail ≠ []) (h : ¬ tail <:+ text) (k : Nat) :
    dropTails tail (text ++ (List.replicate k tail).flatten) = text := by
  -- A word that is not empty stands in a text no more often than the text has characters.
  have hlength : k ≤ (text ++ (List.replicate k tail).flatten).length := by
    rw [List.length_append, List.length_flatten, List.map_replicate, List.sum_replicate, smul_eq_mul]
    have := Nat.le_mul_of_pos_right k (List.length_pos_of_ne_nil hne)
    omega
  have hgo := dropTails_go_flatten (mt List.reverse_eq_nil_iff.1 hne)
    (mt List.reverse_prefix.1 h) hlength
  rw [dropTails, List.reverse_append, reverse_flatten_replicate, hgo, List.reverse_reverse]

/-- Every text ends in a word some number of times, with a text in front that does not end in it. -/
theorem exists_append_replicate (hne : tail ≠ []) (text : List Char) :
    ∃ front k, text = front ++ (List.replicate k tail).flatten ∧ ¬ tail <:+ front := by
  by_cases h : tail <:+ text
  · obtain ⟨front, rfl⟩ := h
    have hshorter : front.length < (front ++ tail).length := by
      rw [List.length_append]
      have := List.length_pos_of_ne_nil hne
      omega
    obtain ⟨front', k, hfront, hends⟩ := exists_append_replicate hne front
    refine ⟨front', k + 1, ?_, hends⟩
    rw [List.replicate_succ', List.flatten_append, ← List.append_assoc, ← hfront]
    simp
  · exact ⟨text, 0, by simp, h⟩
termination_by text.length

/-- What is left of a text without the words at its end, and how many there were. -/
theorem exists_eq_dropTails_append (hne : tail ≠ []) (text : List Char) :
    ∃ k, text = dropTails tail text ++ (List.replicate k tail).flatten := by
  obtain ⟨front, k, rfl, hends⟩ := exists_append_replicate hne text
  exact ⟨k, by rw [dropTails_append hne hends]⟩

end Tails
end BeanKit.Text

import BeanKit.Text.Pieces
import Mathlib
/-!
# Where a text can be cut

Texts are put together from pieces, with separators between them and marks behind them, and can be
taken apart again where a piece cannot run into what follows it. `append_inj_of_stop` cuts off one
piece, `Separable.of_intercalate` all the pieces of a listing.
-/

namespace BeanKit.Text

/-! ## Pieces between separators -/

theorem splitOn_ne_nil (sep : Char) (text : List Char) : splitOn sep text ≠ [] := by
  cases text with
  | nil => simp [splitOn]
  | cons ch text =>
    rw [splitOn]
    split
    · simp
    · cases splitOn sep text <;> simp [consFirst]

theorem splitOn_append (sep : Char) (text more : List Char) :
    splitOn sep (text ++ sep :: more) = splitOn sep text ++ splitOn sep more := by
  induction text with
  | nil => simp [splitOn]
  | cons ch text ih =>
    obtain ⟨first, rest, hs⟩ := List.exists_cons_of_ne_nil (splitOn_ne_nil sep text)
    simp only [List.cons_append, splitOn, ih, hs]
    split <;> rfl

theorem splitOn_of_not_mem {sep : Char} {text : List Char} (h : sep ∉ text) :
    splitOn sep text = [text] := by
  induction text with
  | nil => rfl
  | cons ch text ih =>
    obtain ⟨hch, htext⟩ := not_or.1 (mt List.mem_cons.2 h)
    rw [splitOn, if_neg (Ne.symm hch), ih htext]
    rfl

/-- Pieces in which the separator does not stand are got back from the text that joins them. -/
theorem splitOn_intercalate {sep : Char} {pieces : List (List Char)} (hne : pieces ≠ [])
    (h : ∀ piece ∈ pieces, sep ∉ piece) : splitOn sep ([sep].intercalate pieces) = pieces := by
  induction pieces with
  | nil => exact absurd rfl hne
  | cons piece more ih =>
    obtain ⟨hpiece, hmore⟩ := List.forall_mem_cons.1 h
    cases more with
    | nil => rw [List.intercalate_singleton, splitOn_of_not_mem hpiece]
    | cons next more =>
      rw [List.intercalate_cons_cons, List.append_assoc, List.singleton_append, splitOn_append,
        splitOn_of_not_mem hpiece, ih (List.cons_ne_nil _ _) hmore, List.singleton_append]

theorem mem_of_mem_splitOn {sep ch : Char} {text piece : List Char} (hp : piece ∈ splitOn sep text)
    (hch : ch ∈ piece) : ch ∈ text := by
  induction text generalizing piece with
  | nil =>
    rw [List.mem_singleton.1 (show piece ∈ [[]] from hp)] at hch
    cases hch
  | cons c text ih =>
    obtain ⟨first, more, hs⟩ := List.exists_cons_of_ne_nil (splitOn_ne_nil sep text)
    rw [splitOn, hs] at hp
    rw [hs] at ih
    split at hp
    · rcases List.mem_cons.1 hp with rfl | hp
      · cases hch
      · exact List.mem_cons_of_mem _ (ih hp hch)
    · rcases List.mem_cons.1 (show piece ∈ (c :: first) :: more from hp) with rfl | hp
      · rcases List.mem_cons.1 hch with rfl | hch
        · exact List.mem_cons_self
        · exact List.mem_cons_of_mem _ (ih List.mem_cons_self hch)
      · exact List.mem_cons_of_mem _ (ih (List.mem_cons_of_mem _ hp) hch)

theorem toList_intercalate_cons (sep text : String) (more : List String) :
    (sep.intercalate (text :: more)).toList =
      text.toList ++ more.flatMap fun t => sep.toList ++ t.toList := by
  induction more generalizing text with
  | nil => simp
  | cons next more ih =>
    rw [String.intercalate_cons_cons, String.toList_append, String.toList_append, ih,
      List.flatMap_cons, List.append_assoc, List.append_assoc]

/-! ## Pieces in front of marks -/

/-- A text up to a character that it does not have itself is told from what follows it. -/
theorem append_inj_of_stop {stop : Char → Prop} {text text' rest rest' : List Char}
    (ht : ∀ ch ∈ text, ¬ stop ch) (ht' : ∀ ch ∈ text', ¬ stop ch)
    (hr : ∃ ch ∈ rest.head?, stop ch) (hr' : ∃ ch ∈ rest'.head?, stop ch)
    (h : text ++ rest = text' ++ rest') : text = text' ∧ rest = rest' := by
  obtain ⟨ch, hch, hstop⟩ := hr
  obtain ⟨ch', hch', hstop'⟩ := hr'
  -- one text is the other and a part of what follows it, which starts with the mark or is empty
  rcases List.append_eq_append_iff.1 h with ⟨part, rfl, rfl⟩ | ⟨part, rfl, rfl⟩
  · cases part with
    | nil => simp
    | cons c part =>
      obtain rfl : c = ch := by simpa using hch
      exact absurd hstop (ht' c (by simp))
  · cases part with
    | nil => simp
    | cons c part =>
      obtain rfl : c = ch' := by simpa using hch'
      exact absurd hstop' (ht c (by simp))

/-- A text up to a mark that it does not have. -/
theorem append_cons_inj_of_not_mem {mark : Char} {text text' rest rest' : List Char}
    (ht : mark ∉ text) (ht' : mark ∉ text') (h : text ++ mark :: rest = text' ++ mark :: rest') :
    text = text' ∧ rest = rest' := by
  have hclear : ∀ text : List Char, mark ∉ text → ∀ ch ∈ text, ¬ ch = mark :=
    fun _ ht ch hch hm => ht (hm ▸ hch)
  obtain ⟨htext, hrest⟩ := append_inj_of_stop (hclear _ ht) (hclear _ ht') ⟨mark, rfl, rfl⟩
    ⟨mark, rfl, rfl⟩ h
  exact ⟨htext, (List.cons.inj hrest).2⟩

/-! ## Listings -/

section Listing

variable {α : Type}

/-- Things whose texts can be told from whatever stops them, as a comma does. -/
structure Separable (text : α → String) (good : α → Prop) (Stops : List Char → Prop) : Prop where
  apart : ∀ {a b : α} {rest rest' : List Char}, good a → good b → Stops rest → Stops rest' →
    (text a).toList ++ rest = (text b).toList ++ rest' → a = b ∧ rest = rest'
  comma : ∀ rest, Stops (", ".toList ++ rest)

variable {text : α → String} {good : α → Prop} {Stops : List Char → Prop} {as bs : List α}
  {rest rest' : List Char}

theorem Separable.stops_flatMap (h : Separable text good Stops) (hr : Stops rest) (as : List α) :
    Stops (as.flatMap (fun a => ", ".toList ++ (text a).toList) ++ rest) := by
  cases as with
  | nil => exact hr
  | cons a as =>
    rw [List.flatMap_cons, List.append_assoc, List.append_assoc]
    exact h.comma _

theorem Separable.of_flatMap (h : Separable text good Stops) (ha : ∀ a ∈ as, good a)
    (hb : ∀ b ∈ bs, good b) (hr : Stops rest) (hr' : Stops rest') (hc : rest.head? ≠ some ',')
    (hc' : rest'.head? ≠ some ',')
    (he : as.flatMap (fun a => ", ".toList ++ (text a).toList) ++ rest =
      bs.flatMap (fun b => ", ".toList ++ (text b).toList) ++ rest') : as = bs ∧ rest = rest' := by
  induction as generalizing bs with
  | nil =>
    cases bs with
    | nil => exact ⟨rfl, he⟩
    | cons b bs => exact absurd (congrArg List.head? he) hc
  | cons a as ih =>
    cases bs with
    | nil => exact absurd (congrArg List.head? he.symm) hc'
    | cons b bs =>
      obtain ⟨ha, has⟩ := List.forall_mem_cons.1 ha
      obtain ⟨hb, hbs⟩ := List.forall_mem_cons.1 hb
      simp only [List.flatMap_cons, List.append_assoc, List.append_cancel_left_eq] at he
      obtain ⟨rfl, hmore⟩ := h.apart ha hb (h.stops_flatMap hr as) (h.stops_flatMap hr' bs) he
      obtain ⟨rfl, hrest⟩ := ih has hbs hmore
      exact ⟨rfl, hrest⟩

/-- A listing that is not empty is told apart thing by thing, up to what follows the last. -/
theorem Separable.of_intercalate (h : Separable text good Stops) (hne : as ≠ []) (hne' : bs ≠ [])
    (ha : ∀ a ∈ as, good a) (hb : ∀ b ∈ bs, good b) (hr : Stops rest) (hr' : Stops rest')
    (hc : rest.head? ≠ some ',') (hc' : rest'.head? ≠ some ',')
    (he : (", ".intercalate (as.map text)).toList ++ rest =
      (", ".intercalate (bs.map text)).toList ++ rest') : as = bs ∧ rest = rest' := by
  obtain ⟨a, as, rfl⟩ := List.exists_cons_of_ne_nil hne
  obtain ⟨b, bs, rfl⟩ := List.exists_cons_of_ne_nil hne'
  obtain ⟨ha, has⟩ := List.forall_mem_cons.1 ha
  obtain ⟨hb, hbs⟩ := List.forall_mem_cons.1 hb
  simp only [List.map_cons, toList_intercalate_cons, List.flatMap_map, List.append_assoc] at he
  obtain ⟨rfl, hmore⟩ := h.apart ha hb (h.stops_flatMap hr as) (h.stops_flatMap hr' bs) he
  obtain ⟨rfl, hrest⟩ := h.of_flatMap has hbs hr hr' hc hc' hmore
  exact ⟨rfl, hrest⟩

end Listing
end BeanKit.Text

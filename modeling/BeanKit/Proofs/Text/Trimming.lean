import BeanKit.Text.Blank
import Mathlib.Data.List.DropRight
/-!
# Trimming

A text is what trimming leaves of it with blanks around it. So two texts are trimmed alike exactly
where they are one text but for the blanks around it: `trim_eq_trim_iff`.
-/

namespace BeanKit.Text

variable {core text other : List Char}

/-- `text` is `core` with blanks, as many as there are, in front of it and behind it. -/
def Pads (core text : List Char) : Prop :=
  ∃ front back, (∀ ch ∈ front, isBlank ch) ∧ (∀ ch ∈ back, isBlank ch) ∧
    text = front ++ (core ++ back)

theorem trim_eq (text : List Char) : trim text = (text.dropWhile isBlank).rdropWhile isBlank := rfl

theorem pads_trim (text : List Char) : Pads (trim text) text := by
  refine ⟨text.takeWhile isBlank, (text.dropWhile isBlank).rtakeWhile isBlank,
    fun _ => List.mem_takeWhile_imp, fun _ => List.mem_rtakeWhile_imp, ?_⟩
  rw [trim_eq, List.rdropWhile_append_rtakeWhile, List.takeWhile_append_dropWhile]

theorem rdropWhile_append_of_blank {back : List Char} (h : ∀ ch ∈ back, isBlank ch)
    (text : List Char) : (text ++ back).rdropWhile isBlank = text.rdropWhile isBlank := by
  rw [List.rdropWhile, List.reverse_append, List.dropWhile_append_of_pos (by simpa using h)]
  rfl

theorem trim_of_pads (h : Pads core text) : trim text = trim core := by
  obtain ⟨front, back, hfront, hback, rfl⟩ := h
  rw [trim_eq, trim_eq, List.dropWhile_append_of_pos hfront, List.dropWhile_append]
  split
  · -- a core of blanks is dropped as a whole, and so are the blanks behind it
    rename_i hcore
    rw [List.isEmpty_iff.1 hcore, List.dropWhile_eq_nil_iff.2 hback]
  · exact rdropWhile_append_of_blank hback _

theorem trim_trim (text : List Char) : trim (trim text) = trim text :=
  (trim_of_pads (pads_trim text)).symm

theorem trim_eq_trim_iff :
    trim text = trim other ↔ ∃ core, Pads core text ∧ Pads core other := by
  constructor
  · intro h
    exact ⟨trim text, pads_trim text, h ▸ pads_trim other⟩
  · rintro ⟨core, htext, hother⟩
    rw [trim_of_pads htext, trim_of_pads hother]

/-- A text that neither starts nor ends in a blank stays as it is. -/
theorem trim_eq_self (hhead : ∀ ch ∈ text.head?, ¬ isBlank ch)
    (hlast : ∀ ch ∈ text.getLast?, ¬ isBlank ch) : trim text = text := by
  have hfront : text.dropWhile isBlank = text := by
    cases text with
    | nil => rfl
    | cons ch text => exact List.dropWhile_cons_of_neg (hhead ch rfl)
  rw [trim_eq, hfront, List.rdropWhile_eq_self_iff]
  exact fun hne => hlast _ (List.getLast_mem_getLast? hne)

end BeanKit.Text

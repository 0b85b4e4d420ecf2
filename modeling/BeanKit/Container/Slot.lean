import BeanKit.Text.Quoted
/-!
# Slots

A slot takes a dependency once and is read-only from then on.
-/

namespace BeanKit

/-- A slot, empty or filled. -/
structure Slot (α : Type) where
  held : Option α := none
  deriving Repr, DecidableEq

namespace Slot

variable {α : Type}

/-- Fills an empty slot; a filled one keeps what it holds. -/
def inject (s : Slot α) (a : α) : Slot α := ⟨some (s.held.getD a)⟩

/-- Whether a slot is filled. -/
def isInjected (s : Slot α) : Bool := s.held.isSome

/-- A slot for a type of the given name in a diagnostic. -/
def describe (typeName : String) (s : Slot α) : String :=
  Text.record "Autowired" [("type", Text.quote typeName), ("injected", Text.truth s.isInjected)]

end Slot
end BeanKit

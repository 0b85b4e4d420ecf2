import BeanKit.Calendar
import BeanKit.Number.Shortest
/-!
# Values

The arguments of a query and the contents of a field. A value stands in a statement by its text,
which is neither escaped nor checked.
-/

namespace BeanKit

/-- A value. -/
inductive Value where
  | null
  | bool (b : Bool)
  | int (n : Int)
  | uint (n : Nat)
  | float (x : Double)
  | text (s : String)
  | timestamp (t : Timestamp)
  | date (d : Date)
  deriving Repr, DecidableEq

namespace Value

/-- A value's text: nothing for no value, the words for a truth value, an integer in decimal, a
floating-point number in full (one decimal place when it is an integer), a moment to the second. -/
def render : Value → String
  | .null => ""
  | .bool b => if b then "true" else "false"
  | .int n => toString n
  | .uint n => toString n
  | .float x => Number.onePlaceText x
  | .text s => s
  | .timestamp t => t.text
  | .date d => d.text

/-- Whether a value is blank: no value, or a text without characters. -/
def isBlank : Value → Bool
  | .null => true
  | .text s => s.isEmpty
  | _ => false

/-- The value of something that may be missing. -/
def ofOption {α : Type} (f : α → Value) : Option α → Value
  | none => .null
  | some a => f a

end Value
end BeanKit

/-!
# Sets of code points

A character class is data of a standard: a list of spans in ascending order. Looking a code point
up walks the list and ends at the first span that starts later.
-/

namespace BeanKit.Text

/-- The code points from `first` to `last`, both included. -/
structure Span where
  first : Nat
  last : Nat
  deriving Repr, DecidableEq

/-- Whether an ascending list of spans holds a code point. -/
def Span.holds : List Span → Nat → Bool
  | [], _ => false
  | s :: rest, c => if c < s.first then false else c ≤ s.last || Span.holds rest c

/-- Every `step`-th code point from `first` to `last`. -/
structure SteppedSpan where
  first : Nat
  last : Nat
  step : Nat
  deriving Repr, DecidableEq

/-- Whether a list of stepped spans, ascending by their first code points, holds a code point. -/
def SteppedSpan.holds : List SteppedSpan → Nat → Bool
  | [], _ => false
  | s :: rest, c =>
    if c < s.first then false
    else (c ≤ s.last && (c - s.first) % s.step == 0) || SteppedSpan.holds rest c

end BeanKit.Text

import BeanKit.Query.Error
import BeanKit.Value
/-!
# Predicates

A predicate is a list of conditions, each joined to the one before it. Its text takes one value for
each condition, by position.
-/

namespace BeanKit.Query

/-- A comparison of one column with a value yet to come. -/
structure Condition where
  field : String
  column : String
  comparison : Comparison := .isEqual
  negated : Bool := false
  deriving Repr, DecidableEq

/-- A condition with the connective in front of it; the first one has none. -/
structure Clause where
  join : Option Connective
  condition : Condition
  deriving Repr, DecidableEq

/-- What a query name says. -/
structure Predicate where
  method : String
  clauses : List Clause
  deriving Repr, DecidableEq

/-- A condition's text with its value. -/
def Condition.render (c : Condition) (v : Value) : String :=
  (if c.negated then " NOT" else "") ++ " " ++ c.column ++ " " ++ c.comparison.operator ++ " '"
    ++ v.render ++ "'"

/-- A clause's text with its value. -/
def Clause.render (c : Clause) (v : Value) : String :=
  (match c.join with
    | some j => " " ++ j.operator
    | none => "") ++ c.condition.render v

namespace Predicate

/-- How many values a predicate takes. -/
def arity (p : Predicate) : Nat := p.clauses.length

/-- The text of the clauses from the `index`-th on, with the values that are left. -/
def renderFrom (method : String) : Nat → List Clause → List Value → Except Error String
  | _, [], _ => .ok ""
  | index, c :: _, [] => .error (.insufficientArguments method c.condition.field index)
  | index, c :: clauses, v :: values =>
    (renderFrom method (index + 1) clauses values).map (c.render v ++ ·)

/-- A predicate's text: the `n`-th condition takes the `n`-th value, and values beyond the last
condition are left out. -/
def render (p : Predicate) (values : List Value) : Except Error String :=
  renderFrom p.method 0 p.clauses values

end Predicate
end BeanKit.Query

/-!
# The words of a query name

A query name starts with `findBy`; comparisons and connectives stand in it as words. Each word has
its operator in a statement.
-/

namespace BeanKit.Query

/-- The word that every query name starts with. -/
def findBy : String := "findBy"

/-- The word that negates a condition. -/
def notWord : String := "Not"

/-- How a column is compared with a value. -/
inductive Comparison where
  | greaterOrEqual
  | lessOrEqual
  | greater
  | less
  | notEqual
  | isEqual
  deriving Repr, DecidableEq

namespace Comparison

/-- The comparisons in the order in which their words are tried: a word stands before every word
that it starts with. -/
def inMatchOrder : List Comparison :=
  [.greaterOrEqual, .lessOrEqual, .greater, .less, .notEqual, .isEqual]

/-- The word of a comparison. -/
def word : Comparison → String
  | .greaterOrEqual => "GreaterOrEqual"
  | .lessOrEqual => "LessOrEqual"
  | .greater => "Greater"
  | .less => "Less"
  | .notEqual => "NotEqual"
  | .isEqual => "IsEqual"

/-- The operator of a comparison. -/
def operator : Comparison → String
  | .greaterOrEqual => ">="
  | .lessOrEqual => "<="
  | .greater => ">"
  | .less => "<"
  | .notEqual => "<>"
  | .isEqual => "="

end Comparison

/-- How a condition is joined to the one before it. -/
inductive Connective where
  | and
  | or
  deriving Repr, DecidableEq

namespace Connective

/-- The connectives in the order in which their words are tried. -/
def inMatchOrder : List Connective := [.and, .or]

/-- The word of a connective. -/
def word : Connective → String
  | .and => "And"
  | .or => "Or"

/-- The operator of a connective. -/
def operator : Connective → String
  | .and => "AND"
  | .or => "OR"

end Connective
end BeanKit.Query

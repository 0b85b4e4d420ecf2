import BeanKit.Declaration.Token
/-!
# Type expressions

A type as it is written in a declaration. Only two questions are ever asked of it: whether it is a
trait object, and whether it is a shared handle, a path that ends in `Arc`, and then to what. So a
path keeps its last segment apart from what stands in front of it, a generic argument knows whether
it is a type, and everything that answers no to both questions is kept as its tokens. Generic
arguments are written with the lifetimes in front, in whatever order they were given.
-/

namespace BeanKit.Declaration

mutual

/-- A type. A trait object has its keyword or not, and bounds, the last of which can have a plus
behind it. -/
inductive TypeExpr where
  | path (path : TypePath)
  | traitObject (keyword : Bool) (bounds : List (List Token)) (trailing : Bool)
  | paren (inner : TypeExpr)
  | other (tokens : List Token)

/-- A path: the tokens in front of its last segment, and that segment's name and arguments. -/
inductive TypePath where
  | mk (stem : List Token) (name : String) (arguments : TypeArguments)

/-- The arguments of a path's last segment. Angle brackets can have a double colon in front of them
and a comma behind the last argument; an argument list in parentheses goes with its output. -/
inductive TypeArguments where
  | none
  | angle (joined : Bool) (items : List TypeArgument) (trailing : Bool)
  | round (tokens : List Token)

/-- An argument in angle brackets: a type, a lifetime, or a constant or a constraint on an
associated type. -/
inductive TypeArgument where
  | type (type : TypeExpr)
  | lifetime (name : String)
  | other (tokens : List Token)

end

instance : Inhabited TypeExpr := ⟨.other []⟩

namespace TypePath

/-- What stands in front of the last segment. -/
def stem : TypePath → List Token
  | mk stem _ _ => stem

/-- The name of the last segment. -/
def name : TypePath → String
  | mk _ name _ => name

/-- The arguments of the last segment. -/
def arguments : TypePath → TypeArguments
  | mk _ _ arguments => arguments

end TypePath

/-! ## Writing -/

/-- The tokens of a lifetime. -/
def lifetimeTokens (name : String) : List Token := [.mark '\'', .word name]

/-- Whether an argument is a lifetime. -/
def TypeArgument.isLifetime : TypeArgument → Bool
  | .lifetime _ => true
  | _ => false

/-- An argument as it is met in a list: whether it is a lifetime, its tokens, and whether a comma
stands behind it. -/
structure WrittenArgument where
  isLifetime : Bool
  tokens : List Token
  comma : Bool

/-- The tokens of a written argument with its comma. -/
def WrittenArgument.withComma (a : WrittenArgument) : List Token :=
  a.tokens ++ if a.comma then [.mark ','] else []

/-- Written arguments behind others, which a comma closes or not. -/
def WrittenArgument.behind (closed : Bool) : List WrittenArgument → List Token
  | [] => []
  | a :: rest => (if closed then [] else [.mark ',']) ++ a.withComma ++ behind a.comma rest

/-- Written arguments with the lifetimes in front. Each keeps its comma, and where one is missing
between two of them it is added. -/
def WrittenArgument.inOrder (items : List WrittenArgument) : List Token :=
  let lifetimes := items.filter (·.isLifetime)
  lifetimes.flatMap WrittenArgument.withComma ++
    behind (lifetimes.getLast?.all (·.comma)) (items.filter (!·.isLifetime))

mutual

/-- The tokens of a type. -/
def TypeExpr.tokens : TypeExpr → List Token
  | .path p => p.tokens
  | .traitObject keyword bounds trailing =>
    (if keyword then [.word "dyn"] else []) ++ separated '+' bounds ++
      (if trailing then [.mark '+'] else [])
  | .paren inner => parens inner.tokens
  | .other tokens => tokens

/-- The tokens of a path. -/
def TypePath.tokens : TypePath → List Token
  | .mk stem name arguments => stem ++ .word name :: arguments.tokens

/-- The tokens of the arguments of a segment. -/
def TypeArguments.tokens : TypeArguments → List Token
  | .none => []
  | .angle joined items trailing =>
    (if joined then doubleColon else []) ++
      .mark '<' :: WrittenArgument.inOrder (TypeArgument.written trailing items) ++ [.mark '>']
  | .round tokens => tokens

/-- The tokens of an argument. -/
def TypeArgument.tokens : TypeArgument → List Token
  | .type t => t.tokens
  | .lifetime name => lifetimeTokens name
  | .other tokens => tokens

/-- Arguments as they are met in a list, with a comma behind each but the last, and behind that one
where it is `trailing`. -/
def TypeArgument.written (trailing : Bool) : List TypeArgument → List WrittenArgument
  | [] => []
  | a :: rest =>
    ⟨a.isLifetime, a.tokens, !rest.isEmpty || trailing⟩ :: TypeArgument.written trailing rest

end

/-- The type that an argument is. -/
def TypeArgument.type? : TypeArgument → Option TypeExpr
  | .type t => some t
  | _ => none

/-- The arguments in angle brackets. -/
def TypeArguments.items : TypeArguments → List TypeArgument
  | .angle _ items _ => items
  | _ => []

/-- The types among the arguments in angle brackets. -/
def TypeArguments.types (arguments : TypeArguments) : List TypeExpr :=
  arguments.items.filterMap TypeArgument.type?

namespace TypeExpr

/-- Whether a type is a trait object, parentheses around it aside. -/
def isTraitObject : TypeExpr → Bool
  | .traitObject _ _ _ => true
  | .paren inner => inner.isTraitObject
  | _ => false

/-- The name of the shared handle. -/
def handleName : String := "Arc"

/-- What a shared handle points to: the first argument of a path that ends in `Arc`, where that
argument is a type. -/
def pointee? : TypeExpr → Option TypeExpr
  | .path p =>
    if p.name = handleName then p.arguments.items.head?.bind TypeArgument.type? else none
  | _ => none

/-- What a shared handle points to; any other type stands for itself. -/
def pointee (t : TypeExpr) : TypeExpr := t.pointee?.getD t

end TypeExpr
end BeanKit.Declaration

import BeanKit.Declaration.TypeExpr
/-!
# Bounds

What a trait can be asked to descend from: another trait, with what stands around its path, or a
lifetime or the like.
-/

namespace BeanKit.Declaration

/-- A bound on a trait or type. -/
inductive Bound where
  | parent (before : List Token) (path : TypePath) (after : List Token)
  | other (tokens : List Token)

namespace Bound

/-- The tokens of a bound. -/
def tokens : Bound → List Token
  | parent before path after => before ++ path.tokens ++ after
  | other tokens => tokens

/-- The path of a bound that is a trait. -/
def path? : Bound → Option TypePath
  | parent _ path _ => some path
  | other _ => none

/-- A bound inside parentheses. -/
def enclosed : Bound → Bound
  | parent before path after => parent (.mark '(' :: before) path (after ++ [.mark ')'])
  | other tokens => other (parens tokens)

/-- Whether a bound is a lifetime or says which names an opaque type captures. -/
def isNoTrait : Bound → Bool
  | other (.mark '\'' :: _) | other (.word "use" :: _) => true
  | _ => false

end Bound
end BeanKit.Declaration

import BeanKit.Declaration.Grammar
/-!
# Attributes

An attribute marks a declaration by its path, and can have arguments in brackets behind it. It stands
in front of the declaration, or inside of its braces with an exclamation mark. Arguments are names,
each with what belongs to it, and commas between them.
-/

namespace BeanKit.Declaration

/-- An attribute: what stands between its square brackets, and whether it stands inside of what it
marks. -/
structure Attribute where
  content : List Lexeme
  isInner : Bool := false
  deriving DecidableEq

namespace Attribute

/-- The tokens of an attribute. -/
def tokens (a : Attribute) : List Token :=
  .mark '#' :: (if a.isInner then [.mark '!'] else []) ++ brackets (Lexeme.tokens a.content)

/-- The tokens of the attributes that stand in front of what they mark. -/
def outerTokens (attributes : List Attribute) : List Token :=
  (attributes.filter (!·.isInner)).flatMap tokens

/-- The tokens of the attributes that stand inside of what they mark. -/
def innerTokens (attributes : List Attribute) : List Token :=
  (attributes.filter (·.isInner)).flatMap tokens

/-- Whether an attribute's path is a given word. -/
def isNamed (name : String) (a : Attribute) : Bool :=
  startsWord name a.content && !startsColons (a.content.drop 1)

/-- The arguments of an attribute with a path of one word: none, or what stands in the brackets
behind it. Other things behind the path are no arguments. -/
def arguments (a : Attribute) : Except SyntaxFault (Option (List Lexeme)) :=
  match a.content with
  | [] | [_] => .ok none
  | name :: rest =>
    if startsMark '=' rest then .error (.noArguments name.token.text)
    else .ok (some (upToClosing 0 (rest.drop 1)))

end Attribute

/-! ## Arguments -/

/-- Reads the rest of the path of an argument. -/
def readNameRest : Nat → List String → Parse (List String)
  | 0, done => return done
  | fuel + 1, done => do
    if ← optionalColons then readNameRest fuel (done ++ [← takeAnyWord "ident"]) else return done

/-- Reads the path that names an argument. It has one part or more, and can start with a double
colon, which counts as an empty part. -/
def readName : Parse (List String) := do
  let start := if ← optionalColons then [""] else []
  let ls ← get
  if startsAnyWord ls then readNameRest (ls.length + 1) (start ++ [← takeAnyWord "ident"])
  else if isAtEnd ls then missing ["nested attribute"]
  else if startsLiteral ls then throw (.misplaced "literal")
  else throw (.misplaced "token")

end BeanKit.Declaration

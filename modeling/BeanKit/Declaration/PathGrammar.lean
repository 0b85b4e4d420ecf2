import BeanKit.Declaration.Bound
import BeanKit.Declaration.Grammar
/-!
# Reading paths

A path is made of names with double colons between them, which can have arguments in angle brackets
or parentheses. Types, bounds and code inside the arguments are read by readers that are handed in,
since they can hold paths themselves.
-/

namespace BeanKit.Declaration

/-- The readers of what lies inside a type or bound: of types, which can be sums of bounds or not,
of bounds, and of code up to the bracket that closes it. -/
structure Inner where
  type : Bool → Parse TypeExpr
  bound : Parse Bound
  code : Parse (List Token)

/-- Reads the type behind an arrow, where there is one. -/
def readOutput (inner : Inner) (sums : Bool) : Parse (Option TypeExpr) := do
  if startsPair '-' '>' (← get) then
    pass 2
    return some (← inner.type sums)
  else return none

/-- The tokens of an output. -/
def outputTokens : Option TypeExpr → List Token
  | some t => arrow ++ t.tokens
  | none => []

/-- Reads arguments in parentheses with their output. The second part of the answer says whether
the path can go on behind them. -/
def readRound (inner : Inner) : Parse (TypeArguments × Bool) := do
  let (items, trailing) ← inBrackets '(' (commaItems (inner.type true))
  let output ← readOutput inner false
  let goesOn := match output with
    | none | some (.paren _) => true
    | _ => false
  return (.round (parens (listTokens (items.map TypeExpr.tokens) trailing) ++ outputTokens output),
    goesOn)

/-- Whether arguments in parentheses follow, with or without a double colon in front. -/
def startsRound (ls : List Lexeme) : Bool :=
  startsMark '(' ls || startsColons ls && startsMark '(' (ls.drop 2)

/-- Reads a constant in generic arguments: a literal, or code in braces. -/
def readConstant (inner : Inner) : Parse (List Token) := do
  let ls ← get
  if startsMark '\x7b' ls then return braces (← inBrackets '\x7b' inner.code)
  else
    let n := if startsMark '-' ls then 2 else 1
    pass n
    return Lexeme.tokens (ls.take n)

/-- Whether a constant follows. -/
def startsConstant (ls : List Lexeme) : Bool := startsLiteral ls || startsMark '\x7b' ls

/-- Reads bounds with pluses between them up to a comma or a closing angle. -/
def readConstraint (inner : Inner) : Nat → List (List Token) → Parse (List (List Token) × Bool)
  | 0, done => return (done, false)
  | fuel + 1, done => do
    let ls ← get
    if startsMark ',' ls || startsMark '>' ls then return (done, !done.isEmpty)
    let b ← inner.bound
    if ← optionalMark '+' then readConstraint inner fuel (done ++ [b.tokens])
    else return (done ++ [b.tokens], false)

/-- Reads what a name in generic arguments is equal to or bound by, where it is. -/
def readRestriction (inner : Inner) (name : List Token) : Parse (Option (List Token)) := do
  if ← optionalMark '=' then
    if startsConstant (← get) then return some (name ++ .mark '=' :: (← readConstant inner))
    else return some (name ++ .mark '=' :: (← inner.type true).tokens)
  else if ← optionalMark ':' then
    let (bounds, trailing) ← readConstraint inner ((← get).length + 1) []
    return some (name ++ .mark ':' :: separated '+' bounds ++ if trailing then [.mark '+'] else [])
  else return none

/-- Reads a generic argument. A single name can be restricted. -/
def readArgument (inner : Inner) : Parse TypeArgument := do
  let ls ← get
  if startsLifetime ls && !startsMark '+' (ls.drop 2) then return .lifetime (← takeLifetime)
  else if startsConstant ls then return .other (← readConstant inner)
  else
    let t ← inner.type true
    match t with
    | .path (.mk [] _ (.round _)) => return .type t
    | .path (.mk [] name arguments) =>
      match ← readRestriction inner (TypePath.mk [] name arguments).tokens with
      | some tokens => return .other tokens
      | none => return .type t
    | _ => return .type t

/-- Reads generic arguments in angle brackets. -/
def readAngles (inner : Inner) (joined : Bool) : Parse TypeArguments := do
  takeMark '<'
  let (items, trailing) ←
    itemsFrom (readArgument inner) (startsMark '>') ((← get).length + 1) []
  takeMark '>'
  return .angle joined items trailing

/-- Whether generic arguments follow behind a name. -/
def startsAngles (ls : List Lexeme) : Bool :=
  startsMark '<' ls && !startsPair '<' '=' ls &&
    !(startsPair '<' '<' ls && startsPair '<' '=' (ls.drop 1))

/-- Reads a segment of a path behind a stem. -/
def readSegment (inner : Inner) (stem : List Token) : Parse TypePath := do
  let ls ← get
  if ["super", "self", "crate", "try"].any fun w => startsWord w ls then
    return .mk stem (← takeAnyWord "identifier") .none
  else
    let name ← if startsWord "Self" ls then takeAnyWord "identifier" else takeIdentifier
    let ls ← get
    if startsAngles ls then return .mk stem name (← readAngles inner false)
    else if startsColons ls && startsMark '<' (ls.drop 2) then
      pass 2
      return .mk stem name (← readAngles inner true)
    else return .mk stem name .none

/-- Reads the segments that follow a path. Each takes a lexeme at least. -/
def readSegments (inner : Inner) : Nat → TypePath → Parse TypePath
  | 0, p => return p
  | fuel + 1, p => do
    let ls ← get
    if startsColons ls && !startsMark '(' (ls.drop 2) then
      pass 2
      readSegments inner fuel (← readSegment inner (p.tokens ++ doubleColon))
    else return p

/-- Reads a path. -/
def readPath (inner : Inner) : Parse TypePath := do
  let stem := if ← optionalColons then doubleColon else []
  let first ← readSegment inner stem
  readSegments inner ((← get).length + 1) first

/-- Reads the type in angle brackets that a path starts with, and the trait that the path goes
through. -/
def readSelf (inner : Inner) : Parse (List Token) := do
  takeMark '<'
  let self ← inner.type true
  let trait ← if ← optionalWord "as" then
      let p ← readPath inner
      pure (.word "as" :: p.tokens)
    else pure []
  takeMark '>'
  return .mark '<' :: self.tokens ++ trait ++ [.mark '>']

/-- Reads a path that starts with a type in angle brackets. -/
def readQualified (inner : Inner) : Parse TypePath := do
  let self ← readSelf inner
  takeColons
  let first ← readSegment inner (self ++ doubleColon)
  readSegments inner ((← get).length + 1) first

/-- Reads arguments in parentheses behind a path whose last segment has no arguments yet, and where
the path can go on, what follows it. -/
def readRounds (inner : Inner) : Nat → TypePath → Parse TypePath
  | 0, p => return p
  | fuel + 1, p => do
    match p, startsRound (← get) with
    | .mk stem name .none, true => do
      let _ ← optionalColons
      let (arguments, goesOn) ← readRound inner
      let p := TypePath.mk stem name arguments
      if goesOn then
        let p ← readSegments inner ((← get).length + 1) p
        readRounds inner fuel p
      else return p
    | _, _ => return p

/-- Reads a path that is a type. -/
def readTypePath (inner : Inner) : Parse TypePath := do
  let p ← if startsMark '<' (← get) then readQualified inner else readPath inner
  readRounds inner ((← get).length + 1) p

end BeanKit.Declaration

import BeanKit.Declaration.Code
/-!
# The grammar of types and bounds

Types lie inside types, and bounds inside bounds, only behind some lexeme of their own. So every
reader is given the readers for what lies inside, and `Inner.ofDepth` ties them together as deep as
a text can go. What has no part in the two questions that are asked of a type is read for its tokens
alone.
-/

namespace BeanKit.Declaration

/-! ## Bounds -/

/-- Takes the lifetimes that a binder introduces. -/
def readBinder : Parse (List Token) := do
  if startsWord "for" (← get) then asWritten do
    pass 1
    takeMark '<'
    let ls := (← get).takeWhile fun l => l.token ≠ .mark '>'
    pass ls.length
    takeMark '>'
  else return []

/-- Reads the path of a bound. -/
def readBoundPath (inner : Inner) : Parse TypePath := do
  let p ← readPath inner
  match p, startsRound (← get) with
  | .mk stem name .none, true => do
    let _ ← optionalColons
    return .mk stem name (← readRound inner).1
  | _, _ => return p

/-- Whether a bound on a trait that is constant follows. -/
def startsConstBound (ls : List Lexeme) : Bool :=
  startsWord "const" ls || startsMark '[' ls || startsMark '~' ls && startsWord "const" (ls.drop 1)

/-- Reads a bound by a trait. -/
def readTraitBound (inner : Inner) : Parse Bound := do
  let binder ← readBinder
  let ls ← get
  if startsConstBound ls then
    let tokens ← asWritten do
      pass (if startsWord "const" ls then 1 else if startsMark '[' ls then 3 else 2)
      let _ ← optionalMark '?'
      readBoundPath inner
    return .other (binder ++ tokens)
  else
    let maybe := if ← optionalMark '?' then [.mark '?'] else []
    let later ← if binder.isEmpty then readBinder else pure []
    return .parent (maybe ++ binder ++ later) (← readBoundPath inner) []

/-- Reads a bound. -/
def readBound (inner : Inner) : Parse Bound := do
  let ls ← get
  if startsLifetime ls then return .other (lifetimeTokens (← takeLifetime))
  else if startsWord "use" ls then
    return .other (← asWritten do
      pass 1
      takeMark '<'
      let names := (← get).takeWhile fun l => l.token ≠ .mark '>'
      pass names.length
      takeMark '>')
  else if startsMark '(' ls then
    return (← inBrackets '(' (readTraitBound inner)).enclosed
  else readTraitBound inner

/-- Whether another bound can follow behind a plus. -/
def startsBound (ls : List Lexeme) : Bool :=
  startsAnyWord ls || startsColons ls || startsMark '?' ls || startsLifetime ls || startsMark '(' ls

/-- Reads the bounds behind those that are done, each behind a plus. A plus can stand behind the
last bound. -/
def readSum (inner : Inner) : Nat → List Bound → Parse (List Bound × Bool)
  | 0, done => return (done, false)
  | fuel + 1, done => do
    if ← optionalMark '+' then
      if startsBound (← get) then readSum inner fuel (done ++ [← readBound inner])
      else return (done, true)
    else return (done, false)

/-- Reads a bound, and where `sums`, those that are added to it. -/
def readBounds (inner : Inner) (sums : Bool) : Parse (List Bound × Bool) := do
  let first ← readBound inner
  if sums then readSum inner ((← get).length + 1) [first] else return ([first], false)

/-- A trait object of some bounds. -/
def objectOf (keyword : Bool) (bounds : List Bound × Bool) : TypeExpr :=
  .traitObject keyword (bounds.1.map Bound.tokens) bounds.2

/-- Reads the bounds of a trait object, one of which is a trait. -/
def readObject (inner : Inner) (keyword sums : Bool) : Parse TypeExpr := do
  let bounds ← readBounds inner sums
  if bounds.1.all Bound.isNoTrait then throw (.noTrait true) else return objectOf keyword bounds

/-- Reads bounds that have to follow a bound in parentheses behind pluses. -/
def readAddends (inner : Inner) : Nat → List (List Token) → Parse (List (List Token))
  | 0, done => return done
  | fuel + 1, done => do
    if ← optionalMark '+' then readAddends inner fuel (done ++ [(← readBound inner).tokens])
    else return done

/-! ## Types -/

/-- The tokens of a type in parentheses as a bound, where it can be one. -/
def TypeExpr.enclosed? : TypeExpr → Option (List Token)
  | .path p => if p.stem.head? = some (.mark '<') then none else some (parens p.tokens)
  | .traitObject false [b] false =>
    some (if b.head? = some (.mark '(') then b else parens b)
  | _ => none

/-- Reads a type that starts with a path: the path, a macro, or a sum of bounds. -/
def readFromPath (inner : Inner) (binder : List Token) (sums : Bool) : Parse TypeExpr := do
  let p ← readTypePath inner
  let ls ← get
  if p.stem.head? = some (.mark '<') then return .path p
  else if startsMark '!' ls && !startsPair '!' '=' ls &&
      p.tokens.all fun t => t ≠ .mark '<' && t ≠ .mark '(' then
    pass 1
    return .other (p.tokens ++ .mark '!' :: (← takeGroup "delimiter"))
  else if !binder.isEmpty || sums && startsMark '+' ls then
    let first := Bound.parent binder p []
    if sums then return objectOf false (← readSum inner (ls.length + 1) [first])
    else return objectOf false ([first], false)
  else return .path p

/-- Takes attributes as they stand. -/
def takeAttributes : Nat → Parse (List Token)
  | 0 => return []
  | fuel + 1 => do
    let ls ← get
    if startsMark '#' ls && startsMark '[' (ls.drop 1) then
      pass 1
      let group ← takeGroup "square brackets"
      return .mark '#' :: group ++ (← takeAttributes fuel)
    else return []

/-- Reads an input of a function type, which can have a name. -/
def readFunctionInput (inner : Inner) : Parse (List Token) := do
  let attributes ← takeAttributes ((← get).length + 1)
  let ls ← get
  let dots : List Token := [.mark '.', .mark '.', .mark '.']
  let named := startsAnyWord ls && startsMark ':' (ls.drop 1) && !startsColons (ls.drop 1)
  let name ← if named then asWritten (pass 2) else pure []
  if Lexeme.tokens ((← get).take 3) = dots then
    pass 3
    return attributes ++ name ++ dots
  else return attributes ++ name ++ (← inner.type true).tokens

/-- Reads a function type behind its binder. -/
def readFunction (inner : Inner) : Parse (List Token) := do
  let unsafety := if ← optionalWord "unsafe" then [.word "unsafe"] else []
  let abi ← if startsWord "extern" (← get) then asWritten do
      pass 1
      match ← get with
      | ⟨.literal _, _⟩ :: _ => pass 1
      | _ => pure ()
    else pure []
  if !(← optionalWord "fn") then missing [backQuoted "fn"]
  let (inputs, trailing) ← inBrackets '(' (commaItems (readFunctionInput inner))
  let output ← readOutput inner false
  return unsafety ++ abi ++ .word "fn" :: parens (listTokens inputs trailing) ++ outputTokens output

/-- Reads a type that starts with a parenthesis. -/
def readParens (inner : Inner) (sums : Bool) : Parse TypeExpr := do
  let ls := (← get).drop 1
  if isAtEnd ls then
    pass 2
    return .other (parens [])
  else if startsLifetime ls then return .paren (← inBrackets '(' (readObject inner false true))
  else if startsMark '?' ls then
    let first ← inBrackets '(' (readTraitBound inner)
    return .traitObject false (← readAddends inner (ls.length + 1) [first.enclosed.tokens]) false
  else
    let (items, trailing) ← inBrackets '(' do
      let first ← inner.type true
      if startsMark ',' (← get) then
        pass 1
        let (items, trailing) ← commaItems (inner.type true)
        return (first :: items, items.isEmpty || trailing)
      else return ([first], false)
    match items, trailing with
    | [t], false =>
      match t.enclosed?, sums && startsMark '+' (← get) with
      | some first, true =>
        return .traitObject false (← readAddends inner (ls.length + 1) [first]) false
      | _, _ => return .paren t
    | _, _ => return .other (parens (listTokens (items.map TypeExpr.tokens) trailing))

/-- Reads a slice or array. -/
def readSlice (inner : Inner) : Parse TypeExpr := do
  let tokens ← inBrackets '[' do
    let item ← inner.type true
    if ← optionalMark ';' then
      let ls ← get
      if isAtEnd ls then missing ["an expression"]
      return item.tokens ++ .mark ';' :: (← readCode inner (fun _ => false))
    else return item.tokens
  return .other (brackets tokens)

/-- Reads a raw pointer. -/
def readPointer (inner : Inner) : Parse TypeExpr := do
  takeMark '*'
  if ← optionalWord "const" then
    return .other (.mark '*' :: .word "const" :: (← inner.type false).tokens)
  else if ← optionalWord "mut" then
    return .other (.mark '*' :: .word "mut" :: (← inner.type false).tokens)
  else missing [backQuoted "const", backQuoted "mut"]

/-- Reads a reference. -/
def readReference (inner : Inner) : Parse TypeExpr := do
  takeMark '&'
  let lifetime ← if startsLifetime (← get) then pure (lifetimeTokens (← takeLifetime)) else pure []
  let mutability := if ← optionalWord "mut" then [.word "mut"] else []
  return .other (.mark '&' :: lifetime ++ mutability ++ (← inner.type false).tokens)

/-- Reads an opaque type. -/
def readOpaque (inner : Inner) (sums : Bool) : Parse TypeExpr := do
  pass 1
  let (bounds, trailing) ← readBounds inner sums
  if bounds.all Bound.isNoTrait then throw (.noTrait false)
  let sum := TypeExpr.traitObject false (bounds.map Bound.tokens) trailing
  return .other (.word "impl" :: sum.tokens)

/-- Reads a trait object with its keyword. Behind a star it is none that is known. -/
def readDyn (inner : Inner) (sums : Bool) : Parse TypeExpr := do
  if startsMark '*' ((← get).drop 1) then
    return .other (← asWritten do
      pass 2
      readObject inner true sums)
  else
    pass 1
    readObject inner true sums

/-- What can start a type. -/
def typeStarts : List String :=
  [backQuoted "for", "parentheses", backQuoted "fn", backQuoted "unsafe", backQuoted "extern",
   "identifier", backQuoted "::", backQuoted "<", backQuoted "dyn", "square brackets",
   backQuoted "*", backQuoted "&", backQuoted "!", backQuoted "impl", backQuoted "_", "lifetime"]

/-- What can follow a binder. -/
def boundTypeStarts : List String :=
  ["identifier", backQuoted "fn", backQuoted "unsafe", backQuoted "extern", backQuoted "super",
   backQuoted "self", backQuoted "Self", backQuoted "crate"]

/-- Whether a path follows that is no keyword's type. -/
def startsTypeName (ls : List Lexeme) : Bool :=
  startsIdentifier ls || ["super", "self", "Self", "crate"].any fun w => startsWord w ls

/-- Whether a function type follows. -/
def startsFunction (ls : List Lexeme) : Bool :=
  ["fn", "unsafe", "extern"].any fun w => startsWord w ls

/-- Reads a type. -/
def readType (inner : Inner) (sums : Bool) : Parse TypeExpr := do
  let binder ← readBinder
  let ls ← get
  if startsFunction ls then return .other (binder ++ (← readFunction inner))
  else if startsTypeName ls then readFromPath inner binder sums
  else if !binder.isEmpty then missing boundTypeStarts
  else if startsMark '(' ls then readParens inner sums
  else if startsColons ls || startsMark '<' ls then readFromPath inner [] sums
  else if startsWord "dyn" ls then readDyn inner sums
  else if startsMark '[' ls then readSlice inner
  else if startsMark '*' ls then readPointer inner
  else if startsMark '&' ls then readReference inner
  else if startsMark '!' ls then
    pass 1
    return .other [.mark '!']
  else if startsWord "impl" ls then readOpaque inner sums
  else if startsWord "_" ls then
    pass 1
    return .other [.word "_"]
  else if startsLifetime ls then readObject inner false true
  else missing typeStarts

/-- The readers of what lies inside, as deep as a number says. -/
def Inner.ofDepth : Nat → Inner
  | 0 => ⟨fun _ => missing typeStarts, missing ["identifier"], return []⟩
  | depth + 1 =>
    let inner := ofDepth depth
    ⟨readType inner, readBound inner, readCode inner fun _ => false⟩

/-- The readers of what lies inside the lexemes at hand. What lies inside something takes one lexeme
less at least. -/
def inside : Parse Inner := do return Inner.ofDepth ((← get).length + 1)

/-- Reads a type of any depth. -/
def anyType : Parse TypeExpr := do readType (← inside) true

/-- Reads a bound of any depth. -/
def anyBound : Parse Bound := do readBound (← inside)

end BeanKit.Declaration

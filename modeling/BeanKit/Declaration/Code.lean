import BeanKit.Declaration.PathGrammar
/-!
# Reading code

Code stands in types as the length of an array or as a constant. It stays as it is written, except
for the types in it, which are written like all types, and for a chain of numbered members, which
looks like a number. Whether an angle bracket opens a type depends on what stands in front of it.
-/

namespace BeanKit.Declaration

/-- What a reader takes; nothing is taken where it finds a fault. -/
def attempt {α : Type} (p : Parse α) : Parse (Option α) := do
  match p.run (← get) with
  | .ok (a, rest) =>
    set rest
    return some a
  | .error _ => return none

/-- Where the next piece of code stands: in front of an operand, behind one, or behind the point
that leads to a member of one. -/
inductive CodePlace where
  | start
  | operand
  | member
  deriving Repr, DecidableEq

namespace CodePlace

/-- Whether a word is an operand, or the end of one. -/
def isOperand (word : String) : Bool :=
  isIdentifier word || ["self", "Self", "super", "crate", "true", "false", "await"].contains word

/-- The place behind a piece. An angle bracket alone is a comparison, at the end of a longer piece it
closes generic arguments. -/
def after (place : CodePlace) (piece : List Token) : CodePlace :=
  match piece.getLast? with
  | some (.literal _) => .operand
  | some (.word w) => if isOperand w then .operand else .start
  | some (.mark '.') => if place = .operand then .member else .start
  | some (.mark '>') => if 1 < piece.length then .operand else .start
  | some (.mark c) => if [')', ']', '\x7d', '?'].contains c then .operand else .start
  | none => place

end CodePlace

/-- The numbers of members with points between them, which read as one number. -/
def memberTokens (written : String) : List Token :=
  separated '.' ((Text.splitOn '.' written.toList).map fun part =>
    if part.isEmpty then [] else [.literal (String.ofList part)])

/-- Reads what follows in code: generic arguments, the type that a path starts with or that a cast
leads to, a macro with its brackets, the inside of brackets, or a single token. -/
def readPiece (inner : Inner) (code : Parse (List Token)) (place : CodePlace) :
    Parse (List Token) := do
  let ls ← get
  if startsColons ls then
    pass 2
    if startsMark '<' (ls.drop 2) then
      let arguments ← attempt (readAngles inner true)
      return (arguments.map TypeArguments.tokens).getD doubleColon
    else return doubleColon
  else if startsWord "as" ls then
    pass 1
    let t ← attempt (inner.type false)
    return .word "as" :: (t.map TypeExpr.tokens).getD []
  else
    match ls with
    | ⟨.mark '<', _⟩ :: _ =>
      let self ← if place = .operand then pure none else attempt (readSelf inner)
      match self with
      | some tokens => return tokens
      | none =>
        pass 1
        return [.mark '<']
    | ⟨.mark '!', _⟩ :: rest =>
      pass 1
      if ['(', '[', '\x7b'].any fun c => startsMark c rest then
        return .mark '!' :: (← takeGroup "delimiter")
      else return [.mark '!']
    | ⟨.mark c, _⟩ :: _ =>
      match closing? c with
      | some d => return .mark c :: (← inBrackets c code) ++ [.mark d]
      | none =>
        pass 1
        return [.mark c]
    | ⟨.literal written, _⟩ :: _ =>
      pass 1
      return if place = .member then memberTokens written else [.literal written]
    | l :: _ =>
      pass 1
      return [l.token]
    | [] => return []

/-- Reads code up to its end, or to where it is over. Each piece takes a lexeme at least. -/
def readCodeFrom (inner : Inner) (isOver : List Lexeme → Bool) :
    Nat → CodePlace → Parse (List Token)
  | 0, _ => return []
  | fuel + 1, place => do
    let ls ← get
    if isAtEnd ls || isOver ls then return []
    let inside := readCodeFrom inner (fun _ => false) fuel .start
    let piece ← readPiece inner inside place
    return piece ++ (← readCodeFrom inner isOver fuel (place.after piece))

/-- Reads code up to its end, or to where it is over. -/
def readCode (inner : Inner) (isOver : List Lexeme → Bool) : Parse (List Token) := do
  readCodeFrom inner isOver ((← get).length + 1) .start

end BeanKit.Declaration

import BeanKit.Declaration.Fault
import BeanKit.Declaration.Lexeme
/-!
# Reading lexemes

Readers take something off the front of a list of lexemes, or find what is wrong there. What is read
inside brackets ends in front of the bracket that closes them, as it ends where the text ends.
-/

namespace BeanKit.Declaration

/-- Reads something off the front of lexemes. -/
abbrev Parse (α : Type) := StateT (List Lexeme) (Except SyntaxFault) α

/-! ## Looking ahead -/

/-- Words that are no identifiers. -/
def keywords : List String :=
  ["_", "abstract", "as", "async", "await", "become", "box", "break", "const", "continue", "crate",
   "do", "dyn", "else", "enum", "extern", "false", "final", "fn", "for", "if", "impl", "in", "let",
   "loop", "macro", "match", "mod", "move", "mut", "override", "priv", "pub", "ref", "return",
   "Self", "self", "static", "struct", "super", "trait", "true", "try", "type", "typeof", "unsafe",
   "unsized", "use", "virtual", "where", "while", "yield"]

/-- Whether a word is an identifier. -/
def isIdentifier (word : String) : Bool := !keywords.contains word

/-- Whether lexemes start with a mark. -/
def startsMark (c : Char) : List Lexeme → Bool
  | l :: _ => l.token = .mark c
  | [] => false

/-- Whether lexemes start with two marks that have no gap between them. -/
def startsPair (a b : Char) : List Lexeme → Bool
  | l :: rest => l.token = .mark a && l.joins && startsMark b rest
  | [] => false

/-- Whether lexemes start with a double colon. -/
def startsColons (ls : List Lexeme) : Bool := startsPair ':' ':' ls

/-- Whether lexemes start with a given word. -/
def startsWord (word : String) : List Lexeme → Bool
  | l :: _ => l.token = .word word
  | [] => false

/-- Whether lexemes start with any word. -/
def startsAnyWord : List Lexeme → Bool
  | ⟨.word _, _⟩ :: _ => true
  | _ => false

/-- Whether lexemes start with an identifier. -/
def startsIdentifier : List Lexeme → Bool
  | ⟨.word w, _⟩ :: _ => isIdentifier w
  | _ => false

/-- Whether lexemes start with a lifetime. -/
def startsLifetime : List Lexeme → Bool
  | l :: rest => l.token = .mark '\'' && startsAnyWord rest
  | [] => false

/-- Whether lexemes start with a number. -/
def startsNumber : List Lexeme → Bool
  | ⟨.literal written, _⟩ :: _ => written.toList.head?.any Text.isDigit
  | _ => false

/-- Whether lexemes start with a literal, a truth value, or a number behind a minus. -/
def startsLiteral : List Lexeme → Bool
  | ⟨.literal _, _⟩ :: _ => true
  | ⟨.word w, _⟩ :: _ => w = "true" || w = "false"
  | ⟨.mark c, _⟩ :: rest => c = '-' && startsNumber rest
  | [] => false

/-- Whether nothing is left of a text, or of the brackets around it. -/
def isAtEnd (ls : List Lexeme) : Bool :=
  ls.isEmpty || [')', ']', '\x7d'].any fun c => startsMark c ls

/-! ## Taking lexemes -/

/-- Finds that one of some forms is missing. -/
def missing {α : Type} (forms : List String) : Parse α := do
  throw (.expected (isAtEnd (← get)) forms)

/-- Passes over lexemes. -/
def pass (n : Nat) : Parse Unit := modify (·.drop n)

/-- Takes a mark. -/
def takeMark (c : Char) : Parse Unit := do
  if startsMark c (← get) then pass 1 else throw (.mark c.toString)

/-- Takes a mark where it stands. -/
def optionalMark (c : Char) : Parse Bool := do
  if startsMark c (← get) then
    pass 1
    return true
  else return false

/-- Takes a double colon. -/
def takeColons : Parse Unit := do
  if startsColons (← get) then pass 2 else throw (.mark "::")

/-- Takes a double colon where it stands. -/
def optionalColons : Parse Bool := do
  if startsColons (← get) then
    pass 2
    return true
  else return false

/-- Takes a given word where it stands. -/
def optionalWord (word : String) : Parse Bool := do
  if startsWord word (← get) then
    pass 1
    return true
  else return false

/-- Takes any word; `what` is what it is called where it is missing. -/
def takeAnyWord (what : String) : Parse String := do
  match ← get with
  | ⟨.word w, _⟩ :: rest =>
    set rest
    return w
  | _ => missing [what]

/-- Takes an identifier. -/
def takeIdentifier : Parse String := do
  match ← get with
  | ⟨.word w, _⟩ :: rest =>
    if isIdentifier w then
      set rest
      return w
    else throw (.keyword w)
  | _ => missing ["identifier"]

/-- Takes a lifetime: its name. -/
def takeLifetime : Parse String := do
  if startsLifetime (← get) then
    pass 1
    takeAnyWord "lifetime"
  else missing ["lifetime"]

/-- The tokens that a reader takes, as they stand. -/
def asWritten {α : Type} (p : Parse α) : Parse (List Token) := do
  let before ← get
  let _ ← p
  let after ← get
  return Lexeme.tokens (before.take (before.length - after.length))

/-! ## Brackets -/

/-- The mark that closes the bracket of a mark. -/
def closing? : Char → Option Char
  | '(' => some ')'
  | '[' => some ']'
  | '\x7b' => some '\x7d'
  | _ => none

/-- How many brackets a lexeme opens, and how many it closes. -/
def Lexeme.depths (l : Lexeme) : Nat × Nat :=
  match l.token with
  | .mark c =>
    (if (closing? c).isSome then 1 else 0, if c = ')' ∨ c = ']' ∨ c = '\x7d' then 1 else 0)
  | _ => (0, 0)

/-- The lexemes in front of the bracket that closes the text, where so many more brackets are
open. -/
def upToClosing (depth : Nat) : List Lexeme → List Lexeme
  | [] => []
  | l :: rest =>
    if l.depths.2 = 1 ∧ depth = 0 then []
    else l :: upToClosing (depth + l.depths.1 - l.depths.2) rest

/-- Takes all that is left in front of the closing bracket. -/
def takeRest : Parse (List Lexeme) := do
  let ls := upToClosing 0 (← get)
  pass ls.length
  return ls

/-- The name of a pair of brackets. -/
def bracketName : Char → String
  | '(' => "parentheses"
  | '[' => "square brackets"
  | _ => "curly braces"

/-- Reads what stands in brackets, and nothing else may stand there. -/
def inBrackets {α : Type} (c : Char) (p : Parse α) : Parse α := do
  match closing? c, startsMark c (← get) with
  | some d, true =>
    pass 1
    let a ← p
    if startsMark d (← get) then
      pass 1
      return a
    else throw (.leftOver d)
  | _, _ => missing [bracketName c]

/-- Takes brackets of any kind with all that stands in them. -/
def takeGroup (what : String) : Parse (List Token) := do
  let ls ← get
  match ['(', '[', '\x7b'].find? fun c => startsMark c ls with
  | some c => asWritten (inBrackets c takeRest)
  | none => missing [what]

/-! ## Lists -/

/-- Reads items with commas between them until nothing is left; the second part of the answer says
whether a comma stands behind the last one. Each item but the last takes a comma with it, so one
more than the number of lexemes is fuel enough. -/
def itemsFrom {α : Type} (item : Parse α) (isOver : List Lexeme → Bool) :
    Nat → List α → Parse (List α × Bool)
  | 0, done => return (done, false)
  | fuel + 1, done => do
    if isOver (← get) then return (done, !done.isEmpty)
    let a ← item
    if isOver (← get) then return (done ++ [a], false)
    takeMark ','
    itemsFrom item isOver fuel (done ++ [a])

/-- Reads items with commas between them up to the end. -/
def commaItems {α : Type} (item : Parse α) : Parse (List α × Bool) := do
  itemsFrom item isAtEnd ((← get).length + 1) []

/-- Lists of tokens as items of a list, which a comma can end. -/
def listTokens (items : List (List Token)) (trailing : Bool) : List Token :=
  commaSeparated items ++ if trailing then [.mark ','] else []

end BeanKit.Declaration

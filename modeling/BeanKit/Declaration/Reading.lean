import BeanKit.Declaration.Basic
import BeanKit.Declaration.TypeGrammar
/-!
# Reading declarations

Declarations are given in pieces of source text: the names, types, patterns and bounds in them. The
pieces of one list are put together before they are read, as they are in a source file. A list of
inputs or bounds and a type are read by their grammar; what no grammar reads is kept as its tokens.
-/

namespace BeanKit.Declaration

/-- What a reader takes from the front of a text, and the tokens behind it; nothing where the text
does not start so. -/
def readFront {α : Type} (p : Parse α) (source : String) : Option (α × List Token) :=
  match p.run (scan source) with
  | .ok (a, rest) => some (a, Lexeme.tokens rest)
  | .error _ => none

/-- The type that a text starts with, and the tokens behind it. -/
def TypeExpr.readFront (source : String) : TypeExpr × List Token :=
  (Declaration.readFront anyType source).getD (.other (tokensOf source), [])

/-- The type that a text writes. -/
def TypeExpr.read (source : String) : TypeExpr := (TypeExpr.readFront source).1

/-- The generic parameters that texts write. -/
def genericsOf (sources : List String) : List Token := tokensOf (", ".intercalate sources)

/-! ## Attributes -/

/-- An argument of an attribute as it is given: a key alone, a key with a text, or a key with
types. -/
inductive AttributeArg where
  | flag (key : String)
  | text (key value : String)
  | types (key : String) (types : List String)

/-- An argument of an attribute as it is written. -/
def AttributeArg.source : AttributeArg → String
  | flag key => key
  | text key value => key ++ " = " ++ Text.quote value
  | types key ts => key ++ "(" ++ ", ".intercalate ts ++ ")"

/-- The attribute with a path and arguments. -/
def Attribute.read (path : String) (arguments : Option (List AttributeArg)) : Attribute :=
  { content := scan (path ++ arguments.elim "" fun arguments =>
      "(" ++ ", ".intercalate (arguments.map AttributeArg.source) ++ ")") }

/-! ## Inputs of methods -/

/-- An input of a method. -/
inductive Input where
  | receiver (receiver : Receiver)
  | param (param : Param)

/-- Reads a receiver behind its attributes. -/
def readReceiver (attributes : List Token) : Parse Receiver := do
  let reference ← if ← optionalMark '&' then
      if startsLifetime (← get) then pure (some (lifetimeTokens (← takeLifetime)))
      else pure (some [])
    else pure none
  let isMutable ← optionalWord "mut"
  if !(← optionalWord "self") then missing [backQuoted "self"]
  let type ← if reference.isNone && startsMark ':' (← get) then
      pass 1
      pure (some (← anyType))
    else pure none
  return { attributes, reference, isMutable, type }

/-- Reads a parameter behind its attributes: a pattern, and its type behind a colon. -/
def readParam (attributes : List Token) : Parse Param := do
  let isOver := fun ls => startsMark ':' ls && !startsColons ls
  let pattern ← readCode (← inside) isOver
  takeMark ':'
  return { attributes, pattern, type := ← anyType }

/-- Reads an input: a receiver where one can be read, or else a parameter. -/
def readInput : Parse Input := do
  let attributes ← takeAttributes ((← get).length + 1)
  let ls ← get
  match (readReceiver attributes).run ls with
  | .ok (r, rest) =>
    set rest
    return .receiver r
  | .error _ => return .param (← readParam attributes)

/-- The inputs that a text writes, and whether a comma stands behind the last. -/
def readInputs (source : String) : List Input × Bool :=
  ((readFront (commaItems readInput) source).map (·.1)).getD ([], false)

/-- The receiver that an input is. -/
def Input.receiver? : Input → Option Receiver
  | receiver r => some r
  | param _ => none

/-- The parameter that an input is. -/
def Input.param? : Input → Option Param
  | param p => some p
  | receiver _ => none

/-- The signature with a name, a receiver, parameters by pattern and type, and an output. -/
def Signature.read (name : String) (receiver : Option String) (params : List (String × String))
    (output : Option String) : Signature :=
  let (inputs, trailing) :=
    readInputs (", ".intercalate (receiver.toList ++ params.map fun p => p.1 ++ ": " ++ p.2))
  let output := output.map TypeExpr.readFront
  { name
    receiver := inputs.findSome? Input.receiver?
    params := inputs.filterMap Input.param?
    trailing
    output := output.map (·.1)
    clause := output.elim [] (·.2) }

/-- The method of a trait with a signature and attributes. A body is the one that aborts. -/
def TraitMethod.read (signature : Signature) (attributes : List Attribute) (hasBody : Bool) :
    TraitMethod :=
  { attributes, signature, body := if hasBody then some (tokensOf "unimplemented!()") else none }

/-! ## Bounds -/

/-- Reads bounds with pluses between them, up to where the bounds of types begin or the text
ends. -/
def readSupertraits : Nat → List Bound → Parse (List Bound × Bool)
  | 0, done => return (done, false)
  | fuel + 1, done => do
    let isOver := fun ls => isAtEnd ls || startsWord "where" ls
    if isOver (← get) then return (done, !done.isEmpty)
    let b ← anyBound
    if isOver (← get) then return (done ++ [b], false)
    takeMark '+'
    readSupertraits fuel (done ++ [b])

/-- The associated type with a name. -/
def TraitMember.type (name : String) : TraitMember :=
  .other [] (.word "type" :: tokensOf name ++ [.mark ';'])

/-- The trait with a name, generic parameters, bounds, associated types and methods. -/
def TraitDecl.read (name : String) (generics bounds types : List String)
    (methods : List TraitMethod) : TraitDecl :=
  let source := " + ".intercalate bounds
  let tokens := tokensOf source
  let (bounds, clause) := (readFront (readSupertraits (tokens.length + 1) []) source).getD
    (([.other tokens], false), [])
  { name
    generics := genericsOf generics
    bounds := bounds.1
    trailing := bounds.2
    clause
    members := types.map TraitMember.type ++ methods.map TraitMember.method }

/-! ## Blocks of methods -/

/-- The constant with a name. It is the byte one. -/
def Member.constant (name : String) : Member :=
  .other [] (.word "const" :: .word name :: tokensOf ": u8 = 1;")

/-- The block with a type, generic parameters and members, of a trait or of none. -/
def MethodBlock.read (self : String) (generics : List String) (isOfTrait : Bool)
    (members : List Member) : MethodBlock :=
  let (self, clause) := TypeExpr.readFront self
  { self
    generics := genericsOf generics
    isOfTrait := isOfTrait || clause.head? = some (.word "for")
    clause
    members }

end BeanKit.Declaration

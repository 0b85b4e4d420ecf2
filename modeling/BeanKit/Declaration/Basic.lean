import BeanKit.Declaration.Attribute
import BeanKit.Declaration.Bound
/-!
# Declarations

What a user writes and marks with attributes: data types, traits, and blocks of methods. A
declaration that comes back in the generated code is written by its `tokens`; what nobody looks into,
such as a body, is kept as its tokens. The attributes of data types are only read, by the name of
their path.
-/

namespace BeanKit.Declaration

/-! ## Data types -/

/-- A field with a name. -/
structure FieldDecl where
  name : String
  attributes : List Attribute := []

/-- The body of a data type. -/
inductive DataBody where
  | named (fields : List FieldDecl)
  | tuple
  | unit
  | enumeration
  | union

/-- Whether a body is that of a struct. -/
def DataBody.isStruct : DataBody → Bool
  | named _ | tuple | unit => true
  | enumeration | union => false

/-- A data type, with the tokens of its generic parameters. -/
structure DataDecl where
  name : String
  generics : List Token := []
  attributes : List Attribute := []
  body : DataBody

/-! ## Methods -/

/-- A parameter: its attributes, a pattern and a type. -/
structure Param where
  attributes : List Token := []
  pattern : List Token
  type : TypeExpr

/-- The tokens of a parameter. -/
def Param.tokens (p : Param) : List Token :=
  p.attributes ++ p.pattern ++ .mark ':' :: p.type.tokens

/-- A receiver: a reference with a lifetime or without one, or a value, mutable or not, which can
have a type of its own. -/
structure Receiver where
  attributes : List Token := []
  reference : Option (List Token) := none
  isMutable : Bool := false
  type : Option TypeExpr := none

namespace Receiver

/-- The tokens of a receiver. -/
def tokens (r : Receiver) : List Token :=
  r.attributes ++ (r.reference.elim [] fun lifetime => .mark '&' :: lifetime) ++
    (if r.isMutable then [.word "mut"] else []) ++
    .word "self" :: (r.type.elim [] fun t => .mark ':' :: t.tokens)

/-- Whether a receiver is a shared reference. -/
def isShared (r : Receiver) : Bool := r.reference.isSome && !r.isMutable

end Receiver

/-- The signature of a method: the keywords in front of `fn`, the name, the generic parameters, the
inputs, the output, and the clause that bounds types behind it. `trailing` says whether a comma stands
behind the last input, and `variadic` is what stands there for any number of further ones. -/
structure Signature where
  qualifiers : List Token := []
  name : String
  generics : List Token := []
  receiver : Option Receiver := none
  params : List Param := []
  trailing : Bool := false
  variadic : List Token := []
  output : Option TypeExpr := none
  clause : List Token := []

namespace Signature

/-- The tokens of the inputs, without the parentheses around them. -/
def inputTokens (s : Signature) : List Token :=
  listTokens ((s.receiver.map Receiver.tokens).toList ++ s.params.map Param.tokens) s.trailing ++
    s.variadic

/-- The tokens of a signature. -/
def tokens (s : Signature) : List Token :=
  s.qualifiers ++ .word "fn" :: .word s.name :: angles s.generics ++ parens s.inputTokens ++
    (s.output.elim [] fun t => arrow ++ t.tokens) ++ s.clause

end Signature

/-- A method with its body. `visibility` is what stands in front of the signature. -/
structure MethodDecl where
  attributes : List Attribute := []
  visibility : List Token := []
  signature : Signature
  body : List Token := []

/-- The tokens of a method with its body. -/
def MethodDecl.tokens (m : MethodDecl) : List Token :=
  Attribute.outerTokens m.attributes ++ m.visibility ++ m.signature.tokens ++
    braces (Attribute.innerTokens m.attributes ++ m.body)

/-! ## Traits -/

/-- A method of a trait, with a body or without one. -/
structure TraitMethod where
  attributes : List Attribute := []
  signature : Signature
  body : Option (List Token) := none

/-- The tokens of a method of a trait. -/
def TraitMethod.tokens (m : TraitMethod) : List Token :=
  Attribute.outerTokens m.attributes ++ m.signature.tokens ++
    match m.body with
    | some body => braces (Attribute.innerTokens m.attributes ++ body)
    | none => [.mark ';']

/-- A member of a trait: a method, or something else, such as a type or a constant. -/
inductive TraitMember where
  | method (method : TraitMethod)
  | other (attributes : List Attribute) (item : List Token)

/-- The method that a member is. -/
def TraitMember.method? : TraitMember → Option TraitMethod
  | method m => some m
  | other _ _ => none

/-- The tokens of a member of a trait. -/
def TraitMember.tokens : TraitMember → List Token
  | method m => m.tokens
  | other attributes item => Attribute.outerTokens attributes ++ item

/-- A trait: the keywords in front of it, its bounds, the last of which can have a plus behind it, the
clause that bounds types, and its members. -/
structure TraitDecl where
  attributes : List Attribute := []
  qualifiers : List Token := []
  name : String
  generics : List Token := []
  bounds : List Bound := []
  trailing : Bool := false
  clause : List Token := []
  members : List TraitMember := []

namespace TraitDecl

/-- The methods of a trait. -/
def methods (t : TraitDecl) : List TraitMethod := t.members.filterMap TraitMember.method?

/-- The methods of a trait that have no body. -/
def required (t : TraitDecl) : List TraitMethod := t.methods.filter (·.body.isNone)

/-- The tokens of a trait's bounds, which a colon leads in. -/
def boundTokens (t : TraitDecl) : List Token :=
  if t.bounds.isEmpty then []
  else .mark ':' :: separated '+' (t.bounds.map Bound.tokens) ++
    if t.trailing then [.mark '+'] else []

/-- The tokens of a trait without generic parameters. -/
def tokens (t : TraitDecl) : List Token :=
  Attribute.outerTokens t.attributes ++ t.qualifiers ++ .word "trait" :: .word t.name ::
    t.boundTokens ++ t.clause ++
    braces (Attribute.innerTokens t.attributes ++ t.members.flatMap TraitMember.tokens)

end TraitDecl

/-! ## Method blocks -/

/-- A member of a method block: a method with its body, or something else, such as a constant, a type
or a macro. -/
inductive Member where
  | method (method : MethodDecl)
  | other (attributes : List Attribute) (item : List Token)

/-- The method that a member is. -/
def Member.method? : Member → Option MethodDecl
  | method m => some m
  | other _ _ => none

/-- The tokens of a member. -/
def Member.tokens : Member → List Token
  | method m => m.tokens
  | other attributes item => Attribute.outerTokens attributes ++ item

/-- A block of methods on a type, its own or those of a trait. `qualifiers` are the keywords in front
of `impl`. -/
structure MethodBlock where
  attributes : List Attribute := []
  qualifiers : List Token := []
  self : TypeExpr
  generics : List Token := []
  isOfTrait : Bool := false
  clause : List Token := []
  members : List Member := []

/-- The methods of a block. -/
def MethodBlock.methods (b : MethodBlock) : List MethodDecl := b.members.filterMap Member.method?

/-- The tokens of a block without generic parameters that is of no trait. -/
def MethodBlock.tokens (b : MethodBlock) : List Token :=
  Attribute.outerTokens b.attributes ++ b.qualifiers ++ .word "impl" :: b.self.tokens ++ b.clause ++
    braces (Attribute.innerTokens b.attributes ++ b.members.flatMap Member.tokens)

end BeanKit.Declaration

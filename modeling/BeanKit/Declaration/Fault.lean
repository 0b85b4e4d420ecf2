/-!
# What is wrong with source text

Where a text is no declaration, it lacks something that would have to stand at some place of it, or
has something there that cannot stand there. Each such fault has its wording here.
-/

namespace BeanKit.Declaration

/-- What is wrong at a place of a text. The place can be the end of the text, or of the brackets
around it. -/
inductive SyntaxFault where
  | mark (written : String)
  | expected (atEnd : Bool) (forms : List String)
  | keyword (word : String)
  | leftOver (closing : Char)
  | misplaced (what : String)
  | noArguments (path : String)
  | noTrait (inObject : Bool)
  deriving Repr, DecidableEq

/-- A source form inside back quotes. -/
def backQuoted (form : String) : String := "\x60" ++ form ++ "\x60"

/-- The wording of what would have to stand at a place: one of some forms. -/
def listed : List String → String
  | [a] => "expected " ++ a
  | [a, b] => "expected " ++ a ++ " or " ++ b
  | forms => "expected one of: " ++ ", ".intercalate forms

/-- The wording of a fault. -/
def SyntaxFault.message : SyntaxFault → String
  | mark written => "expected " ++ backQuoted written
  | expected atEnd forms => (if atEnd then "unexpected end of input, " else "") ++ listed forms
  | keyword word => "expected identifier, found keyword " ++ backQuoted word
  | leftOver closing => "unexpected token, expected " ++ backQuoted closing.toString
  | misplaced what => "unexpected " ++ what ++ " in nested attribute, expected ident"
  | noArguments path => "expected parentheses: #[" ++ path ++ "(...)]"
  | noTrait true => "at least one trait is required for an object type"
  | noTrait false => "at least one trait must be specified"

end BeanKit.Declaration

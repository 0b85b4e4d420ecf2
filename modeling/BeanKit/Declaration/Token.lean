import BeanKit.Text.Quoted
/-!
# Tokens of declarations

Declarations and the code generated for them are lists of tokens: words, literals, and marks of one
character each. A compound mark such as an arrow is several tokens, and so is a lifetime, an
apostrophe in front of a word. `Token.line` writes tokens with a space between any two.
-/

namespace BeanKit.Declaration

open BeanKit.Text

/-- A token: a word (an identifier or a keyword), a literal as it is written, or a mark of one
character. -/
inductive Token where
  | word (text : String)
  | literal (written : String)
  | mark (c : Char)
  deriving Repr, DecidableEq, Inhabited

/-- A token as it is written. -/
def Token.text : Token → String
  | .word text => text
  | .literal written => written
  | .mark c => c.toString

/-- Tokens on one line, with a space between any two. -/
def Token.line (tokens : List Token) : String := " ".intercalate (tokens.map Token.text)

/-- A string literal with the given content. -/
def Token.ofString (content : String) : Token := .literal (Text.literal content)

/-- Lists of tokens one after the other, with a mark between any two. -/
def separated (c : Char) : List (List Token) → List Token
  | [] => []
  | [tokens] => tokens
  | tokens :: rest => tokens ++ .mark c :: separated c rest

/-- Lists of tokens one after the other, with a comma between any two. -/
def commaSeparated (lists : List (List Token)) : List Token := separated ',' lists

/-- A token list between a pair of parentheses. -/
def parens (tokens : List Token) : List Token := .mark '(' :: tokens ++ [.mark ')']

/-- A token list between a pair of square brackets. -/
def brackets (tokens : List Token) : List Token := .mark '[' :: tokens ++ [.mark ']']

/-- A token list between a pair of braces. -/
def braces (tokens : List Token) : List Token := .mark '\x7b' :: tokens ++ [.mark '\x7d']

/-- A token list between a pair of angle brackets, where there is anything to stand there. -/
def angles (tokens : List Token) : List Token :=
  if tokens.isEmpty then [] else .mark '<' :: tokens ++ [.mark '>']

theorem infix_braces {part tokens : List Token} (h : part <:+: tokens) : part <:+: braces tokens :=
  List.infix_append_of_infix_left (List.infix_cons h)

/-- Two colons. -/
def doubleColon : List Token := [.mark ':', .mark ':']

/-- The head of an output: an arrow. -/
def arrow : List Token := [.mark '-', .mark '>']

end BeanKit.Declaration

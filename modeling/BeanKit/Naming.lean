import BeanKit.Text.CaseMap
import BeanKit.Text.LetterCase
import BeanKit.Text.Pieces
/-!
# Names in three spellings

A field is declared in snake case or in camel case, stands in a query name with every word
capitalised, and a method declared in snake case is called in camel case. `capitalize` takes the
whole upper case of a first letter, which can be several characters; `snake` and `camel` take its
first character only.
-/

namespace BeanKit.Naming

open BeanKit.Text

/-- A word with its first character in upper case. -/
def capitalizeWord : List Char → List Char
  | [] => []
  | c :: rest => toUpper c ++ rest

/-- A name with the underscores taken out and each word between them capitalised. -/
def capitalizeChars (cs : List Char) : List Char := (splitOn '_' cs).flatMap capitalizeWord

/-- A name with the underscores taken out and each word between them capitalised. -/
def capitalize (name : String) : String := String.ofList (capitalizeChars name.toList)

/-- Camel case, from the state in which `raise` says whether the next character starts a word. -/
def camelFrom : Bool → List Char → List Char
  | _, [] => []
  | raise, c :: rest =>
    if c = '_' then camelFrom true rest
    else (if raise then firstUpper c else c) :: camelFrom false rest

/-- A name in camel case: every underscore goes, and the character after it is raised. -/
def camel (name : String) : String := String.ofList (camelFrom false name.toList)

/-- Snake case behind the character `before`: a capital takes an underscore in front where one of
its two neighbours is a small letter. -/
def snakeFrom (before : Char) : List Char → List Char
  | [] => []
  | c :: rest =>
    let breaks := isUppercase c && (isLowercase before || rest.head?.any isLowercase)
    (if breaks then ['_'] else []) ++ firstLower c :: snakeFrom c rest

/-- Snake case of a list of characters: the first is lowered and takes no underscore. -/
def snakeChars : List Char → List Char
  | [] => []
  | c :: rest => firstLower c :: snakeFrom c rest

/-- A name in snake case. -/
def snake (name : String) : String := String.ofList (snakeChars name.toList)

end BeanKit.Naming

import BeanKit.Settings.Reading
import BeanKit.Text.Blank
/-!
# INI files

Reads sections of keys and texts. A key reaches to the next equals sign or colon, a text to the end
of its line, and every comment starts a line of its own. Keys above all sections are fields of the
document itself. Of two sections with one name the later one counts, and of two keys in a section
the later one.
-/

namespace BeanKit.Settings.Ini

open BeanKit.Text

/-- The character behind a backslash, where it has a meaning of its own. -/
def escaped? : Char → Option Char
  | '0' => some '\x00'
  | 'a' => some '\x07'
  | 'b' => some '\x08'
  | 't' => some '\t'
  | 'r' => some '\r'
  | 'n' => some '\n'
  | _ => none

/-- The character of four places behind the letter of an escape: hexadecimal digits, of which the
first can be a plus sign. -/
def codeEscape? : List Char → Taken Char
  | '+' :: rest => hexEscape? 3 rest
  | cs => hexEscape? 4 cs

/-- The characters in front of one that ends the piece, or of the end of the text where that is
`open`; the rest starts with the ending character. -/
def piece (ends : Char → Bool) (isOpen : Bool) : Nat → List Char → Taken (List Char)
  | 0, _ => none
  | _ + 1, [] => if isOpen then some ([], []) else none
  | fuel + 1, c :: rest =>
    if ends c then some ([], c :: rest)
    else if c = '\\' then
      match rest with
      | [] => none
      | '\n' :: rest => piece ends isOpen fuel rest
      | 'x' :: rest =>
        match codeEscape? rest with
        | some (c, rest) => consTaken c (piece ends isOpen fuel rest)
        | none => none
      | d :: rest => consTaken ((escaped? d).getD d) (piece ends isOpen fuel rest)
    else consTaken c (piece ends isOpen fuel rest)

/-- The characters in front of one that ends the piece; there has to be one. -/
def upTo (ends : Char → Bool) (cs : List Char) : Taken (List Char) :=
  piece ends false (cs.length + 1) cs

/-- The characters of a line that are left, without the blanks at their ends. -/
def restOfLine (cs : List Char) : Taken (List Char) :=
  (piece (fun c => c = '\n' || c = '\r') true (cs.length + 1) cs).map fun (line, rest) =>
    (trim line, rest)

/-- A text in quotes, behind the first of them, and what follows it on its line. -/
def quoted (q : Char) (cs : List Char) : Taken (List Char) :=
  (upTo (· = q) cs).bind fun (text, rest) =>
    (restOfLine (rest.drop 1)).map fun (more, rest) => (text ++ more, rest)

/-- The text behind the mark that ends a key. -/
def value (cs : List Char) : Taken (List Char) :=
  match cs.dropWhile fun c => isBlank c && c ≠ '\n' && c ≠ '\r' with
  | '"' :: rest => quoted '"' rest
  | '\'' :: rest => quoted '\'' rest
  | rest => restOfLine rest

/-- A section: its name, which the keys above all sections do not have, and its fields. -/
structure Section where
  name : Option String := none
  fields : List (String × Tree) := []

/-- Adds a field to the last of some sections. -/
def addField (key value : List Char) : List Section → List Section
  | [] => []
  | [s] => [{ s with fields := s.fields ++ [(String.ofList key, .text (String.ofList value))] }]
  | s :: rest => s :: addField key value rest

/-- Reads the sections of a text. `atStart` says whether the text starts a line, `key` is the key
that was read last and has no text yet. Every call takes at least one character. -/
def run : Nat → Bool → List Char → List Section → List Char → Option (List Section)
  | 0, _, _, _, _ => none
  | fuel + 1, atStart, key, done, cs =>
    let blanks := cs.takeWhile isBlank
    let atStart := if blanks.isEmpty then atStart else blanks.getLast? = some '\n'
    match cs.dropWhile isBlank with
    | [] => some done
    | c :: rest =>
      if c = ';' ∨ c = '#' then
        if atStart then run fuel true key done ((rest.dropWhile (· ≠ '\n')).drop 1) else none
      else if c = '[' then
        match upTo (· = ']') rest with
        | some (name, rest) =>
          run fuel false key (done ++ [{ name := String.ofList (trim name) }]) (rest.drop 1)
        | none => none
      else if c = '=' ∨ c = ':' then
        if key.isEmpty then none
        else
          match value rest with
          | some (text, rest) => run fuel false [] (addField key text done) rest
          | none => none
      else
        match upTo (fun c => c = '=' || c = ':') (c :: rest) with
        | some (key, rest) => run fuel false (trim key) done rest
        | none => none

/-- The fields that a section adds to the document. -/
def Section.documentFields (s : Section) : List (String × Tree) :=
  match s.name with
  | none => (OrderedMap.ofList s.fields).entries
  | some name => [(name, .table (OrderedMap.ofList s.fields).entries)]

/-- The fields of a document. -/
def read (cs : List Char) : Option (List (String × Tree)) :=
  (run (cs.length + 1) true [] [{}] cs).map fun sections =>
    (OrderedMap.ofList (sections.flatMap Section.documentFields)).entries

end BeanKit.Settings.Ini

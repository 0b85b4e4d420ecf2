import BeanKit.Settings.Toml.Scalar
import BeanKit.Settings.Toml.Table
/-!
# TOML files

Reads a TOML document: fields under headers, with dotted and quoted keys. No key is given twice, no
table is opened twice, and what a field holds is closed to later headers and keys. Dates stay texts.
-/

namespace BeanKit.Settings.Toml

open BeanKit.Text

mutual

/-- A value, in which lists and tables lie at most `depth` deep. Every call takes at least one
character, so the length of the text is fuel enough. -/
def value : Nat → Nat → List Char → Taken Tree
  | 0, _, _ => none
  | fuel + 1, depth, cs =>
    match cs, depth with
    | '"' :: _, _ => (quoted cs).map fun (s, rest) => (.text (String.ofList s), rest)
    | '\'' :: _, _ => (quoted cs).map fun (s, rest) => (.text (String.ofList s), rest)
    | '[' :: _, 0 => none
    | '{' :: _, 0 => none
    | '[' :: rest, depth + 1 => items fuel depth rest []
    | '{' :: rest, depth + 1 =>
      match skipSpace rest with
      | '}' :: rest => some (.empty, rest)
      | rest => inlineFields fuel depth rest []
    | _, _ => scalar cs

/-- The items of a list up to the closing bracket, behind those that are `done`. -/
def items : Nat → Nat → List Char → List Tree → Taken Tree
  | 0, _, _, _ => none
  | fuel + 1, depth, cs, done =>
    match skipLines cs.length cs with
    | ']' :: rest => some (.list done, rest)
    | cs =>
      match value fuel depth cs with
      | none => none
      | some (t, rest) =>
        match skipLines rest.length rest with
        | ',' :: rest => items fuel depth rest (done ++ [t])
        | ']' :: rest => some (.list (done ++ [t]), rest)
        | _ => none

/-- The fields of a table on one line up to the closing brace, behind those that are `done`. -/
def inlineFields : Nat → Nat → List Char → Fields → Taken Tree
  | 0, _, _, _ => none
  | fuel + 1, depth, cs, done =>
    match keyPath cs with
    | some (path, '=' :: rest) =>
      match value fuel depth (skipSpace rest) with
      | none => none
      | some (t, rest) =>
        match done.add t path with
        | none => none
        | some done =>
          match skipSpace rest with
          | ',' :: rest => inlineFields fuel depth rest done
          | '}' :: rest => some (.table (fieldTrees done), rest)
          | _ => none
    | _ => none

end

/-- A document as far as it is read: its fields, and the table that new fields go into. -/
structure Document where
  fields : Fields := []
  current : List String := []

namespace Document

/-- Opens the table of a header. -/
def openTable (d : Document) (path : List String) : Option Document :=
  (d.fields.atPath (·.openTable (path.getLastD "")) path.dropLast).map fun fields =>
    { fields, current := path }

/-- Opens a new table at the end of a list of tables. -/
def openItem (d : Document) (path : List String) : Option Document :=
  (d.fields.atPath (·.openItem (path.getLastD "")) path.dropLast).map fun fields =>
    { fields, current := path }

/-- Adds a field to the current table. -/
def addField (d : Document) (path : List String) (t : Tree) : Option Document :=
  (d.fields.atPath (·.add t path) d.current).map fun fields => { d with fields }

/-- Reads a header behind its opening bracket. -/
def header (d : Document) (cs : List Char) : Option (Document × List Char) :=
  let (isItem, cs) := match cs with
    | '[' :: rest => (true, rest)
    | _ => (false, cs)
  match keyPath cs, isItem with
  | some (path, ']' :: ']' :: rest), true =>
    (d.openItem path).bind fun d => (endOfLine? rest).map fun rest => (d, rest)
  | some (path, ']' :: rest), false =>
    (d.openTable path).bind fun d => (endOfLine? rest).map fun rest => (d, rest)
  | _, _ => none

/-- Reads a field. -/
def field (d : Document) (cs : List Char) : Option (Document × List Char) :=
  match keyPath cs with
  | some (path, '=' :: rest) =>
    match value (rest.length + 1) greatestDepth (skipSpace rest) with
    | some (t, rest) =>
      (d.addField path t).bind fun d => (endOfLine? rest).map fun rest => (d, rest)
    | none => none
  | _ => none

/-- Reads headers and fields until the text ends. Each of them takes at least one character. -/
def run : Nat → Document → List Char → Option Document
  | 0, _, _ => none
  | fuel + 1, d, cs =>
    match skipLines cs.length cs with
    | [] => some d
    | '[' :: rest =>
      match d.header rest with
      | some (d, rest) => run fuel d rest
      | none => none
    | cs =>
      match d.field cs with
      | some (d, rest) => run fuel d rest
      | none => none

end Document

/-- The fields of a document. -/
def read (cs : List Char) : Option (List (String × Tree)) :=
  (Document.run (cs.length + 1) {} (withoutMark cs)).map fun d => fieldTrees d.fields

end BeanKit.Settings.Toml

import BeanKit.Number.Reading
import BeanKit.Number.Shortest
import BeanKit.OrderedMap
import BeanKit.Text.CaseMap
import BeanKit.Text.Pieces
/-!
# Trees of settings

What a configuration file or the environment says, before it is known to fit the settings: scalars,
lists and tables. Trees are laid over one another: a later scalar or list takes the place of an
earlier one, a later table is merged key by key into an earlier one. Keys are kept in lower case.
-/

namespace BeanKit.Settings

/-- A tree of settings. -/
inductive Tree where
  | null
  | bool (b : Bool)
  | int (n : Int)
  | float (x : Double)
  | text (s : String)
  | list (items : List Tree)
  | table (fields : List (String × Tree))

namespace Tree

/-- The tree without settings. -/
def empty : Tree := .table []

instance : Inhabited Tree := ⟨.null⟩

/-- The fields of a table; other trees have none. -/
def fields : Tree → List (String × Tree)
  | .table fields => fields
  | _ => []

/-- What a list of fields has under a key. -/
def lookup (key : String) (fields : List (String × Tree)) : Option Tree :=
  (fields.find? (·.1 = key)).map (·.2)

/-- What a table has under a key. -/
def get? (t : Tree) (key : String) : Option Tree := lookup key t.fields

mutual

/-- Lays a tree over what a table has under a key. What is no table becomes one. -/
def write (root : Tree) (key : String) : Tree → Tree
  | .table incoming =>
    let key := Text.lowerText key
    .table (OrderedMap.put key (writeAll ((root.get? key).getD empty) incoming) root.fields)
  | value => .table (OrderedMap.put (Text.lowerText key) value root.fields)

/-- Lays fields over a tree, one after the other. -/
def writeAll (root : Tree) : List (String × Tree) → Tree
  | [] => root
  | (key, value) :: rest => writeAll (write root key value) rest

end

/-! ## Paths -/

/-- A step of a path: to what a table has under a key, or to an item of a list, counted from the
front or, where the number is negative, from the end. -/
inductive Step where
  | key (name : String)
  | item (number : Int)
  deriving Repr, DecidableEq

/-- The items of a list; other trees have none. -/
def items : Tree → List Tree
  | .list items => items
  | _ => []

/-- How far a list can be made to reach. -/
def greatestItem : Nat := Nat.pow 2 24

/-- The place of an item in a list of a given length. There is none in front of the list, and none
where the list would grow beyond bounds. -/
def place? (length : Nat) (number : Int) : Option Nat :=
  let place := if 0 ≤ number then number else length + number
  if 0 ≤ place ∧ place ≤ greatestItem then some place.toNat else none

/-- A list with an item at a place. Nothing stands in the places that it gains in front of it. -/
def setItem (items : List Tree) (place : Nat) (value : Tree) : List Tree :=
  (items ++ List.replicate (place + 1 - items.length) Tree.null).set place value

/-- Lays a tree over what stands at the end of a path. What is in the way becomes the table or list
that the path asks for. -/
def writeAt (root : Tree) (value : Tree) : List Step → Option Tree
  | [] => some root
  | [.key name] => some (root.write name value)
  | [.item number] => (place? root.items.length number).map fun place =>
    .list (setItem root.items place value)
  | .key name :: rest =>
    let name := Text.lowerText name
    (writeAt ((root.get? name).getD .null) value rest).map fun inner =>
      .table (OrderedMap.put name inner root.fields)
  | .item number :: rest =>
    (place? root.items.length number).bind fun place =>
      (writeAt (root.items.getD place .null) value rest).map fun inner =>
        .list (setItem root.items place inner)

/-- Whether a character may stand in a key of a path. -/
def isPathChar (c : Char) : Bool :=
  'a' ≤ c && c ≤ 'z' || 'A' ≤ c && c ≤ 'Z' || Text.isDigit c || c = ' ' || c = '_' || c = '-'

/-- A text without the spaces and tabs at its front. -/
def skipSpaces (cs : List Char) : List Char := cs.dropWhile fun c => c = ' ' || c = '\t'

/-- The number of an item behind an opening bracket, up to the closing one. -/
def itemNumber? (cs : List Char) : Option (Int × List Char) :=
  let (negative, rest) := match skipSpaces cs with
    | '-' :: rest => (true, rest)
    | rest => (false, rest)
  match skipSpaces (rest.dropWhile Text.isDigit) with
  | ']' :: after =>
    ((Text.nat? (rest.takeWhile Text.isDigit)).bind (Number.signed? negative)).map (·, after)
  | _ => none

/-- The steps that follow the first key of a path. Each takes two characters at least, so the length
of the text is fuel enough. -/
def stepsFrom? : Nat → List Char → Option (List Step)
  | _, [] => some []
  | 0, _ :: _ => none
  | fuel + 1, '.' :: rest =>
    let name := rest.takeWhile isPathChar
    if name.isEmpty then none
    else (stepsFrom? fuel (rest.dropWhile isPathChar)).map (.key (String.ofList name) :: ·)
  | fuel + 1, '[' :: rest =>
    match itemNumber? rest with
    | some (number, rest) => (stepsFrom? fuel rest).map (.item number :: ·)
    | none => none
  | _ + 1, _ :: _ => none

/-- The path that a key of a source stands for: keys with points between them and numbers of items
in brackets, where it has this form, and the key itself otherwise. -/
def pathOf (key : String) : List Step :=
  let cs := key.toList
  let name := cs.takeWhile isPathChar
  if name.isEmpty then [.key key]
  else
    match stepsFrom? cs.length (cs.dropWhile isPathChar) with
    | some steps => .key (String.ofList name) :: steps
    | none => [.key key]

/-- Lays the fields of a source over a tree. There is no result where a path leads to an item that
no list can have. -/
def overlay (root : Tree) (source : List (String × Tree)) : Option Tree :=
  source.foldlM (fun t f => t.writeAt f.2 (pathOf f.1)) root

end Tree
end BeanKit.Settings

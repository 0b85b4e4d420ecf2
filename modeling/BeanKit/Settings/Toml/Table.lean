import BeanKit.Settings.Tree
/-!
# Tables of TOML

A table remembers how it came into being, because that decides what may still be added to it: a
table with a header of its own takes fields only behind that header; one that is only part of the
path of a header can still get its own header; one that dotted keys have made can get more fields by
dotted keys. What a field holds is closed.
-/

namespace BeanKit.Settings.Toml

/-- How a table came into being: by its own header, as part of the path of a header, or by dotted
keys. -/
inductive Origin where
  | header
  | path
  | dotted
  deriving Repr, DecidableEq

/-- What stands under a key: a value, a table, or a list of tables that headers have opened. -/
inductive Item where
  | value (t : Tree)
  | table (origin : Origin) (fields : List (String × Item))
  | tables (items : List (List (String × Item)))

/-- Fields in their order. -/
abbrev Fields := List (String × Item)

/-- What fields have under a key. -/
def Fields.get? (fields : Fields) (key : String) : Option Item :=
  (fields.find? (·.1 = key)).map (·.2)

mutual

/-- An item as a tree. -/
def Item.tree : Item → Tree
  | .value t => t
  | .table _ fields => .table (fieldTrees fields)
  | .tables items => .list (tableTrees items)

/-- Fields as the fields of a tree. -/
def fieldTrees : List (String × Item) → List (String × Tree)
  | [] => []
  | (key, item) :: rest => (key, item.tree) :: fieldTrees rest

/-- Tables as trees. -/
def tableTrees : List (List (String × Item)) → List Tree
  | [] => []
  | fields :: rest => .table (fieldTrees fields) :: tableTrees rest

end

namespace Fields

/-- Changes the last of a list of tables. -/
def inLast (change : Fields → Option Fields) (items : List Fields) : Option Item :=
  match items.getLast? with
  | some fields => (change fields).map fun fields => .tables (items.dropLast ++ [fields])
  | none => none

/-- Adds a field at the end of a dotted key. On the way the key makes tables, and enters those that
dotted keys have made; it passes through others that have no header, but adds nothing to them. -/
def add (t : Tree) : List String → Fields → Option Fields
  | [], _ => none
  | [key], fields => if (fields.get? key).isSome then none else some (fields ++ [(key, .value t)])
  | key :: next :: rest, fields =>
    let inner := add t (next :: rest)
    let changed : Option Item :=
      match fields.get? key with
      | none => (inner []).map (.table .dotted)
      | some (.table .dotted fields) => (inner fields).map (.table .dotted)
      | some (.table .path fields) =>
        if rest.isEmpty then none else (inner fields).map (.table .path)
      | some (.tables items) => if rest.isEmpty then none else inLast inner items
      | some (.table .header _) | some (.value _) => none
    changed.map fun item => OrderedMap.put key item fields

/-- Changes the table at the end of the path of a header. Tables that are missing on the way are
made; of a list of tables the last one is meant. -/
def atPath (change : Fields → Option Fields) : List String → Fields → Option Fields
  | [], fields => change fields
  | key :: rest, fields =>
    let changed : Option Item :=
      match fields.get? key with
      | none => (atPath change rest []).map (.table .path)
      | some (.table origin fields) => (atPath change rest fields).map (.table origin)
      | some (.tables items) => inLast (atPath change rest) items
      | some (.value _) => none
    changed.map fun item => OrderedMap.put key item fields

/-- Gives a table its header: a new table, or one that was only part of a path. -/
def openTable (key : String) (fields : Fields) : Option Fields :=
  match fields.get? key with
  | none => some (fields ++ [(key, .table .header [])])
  | some (.table .path inner) => some (OrderedMap.put key (.table .header inner) fields)
  | some _ => none

/-- Adds a table to a list of tables. -/
def openItem (key : String) (fields : Fields) : Option Fields :=
  match fields.get? key with
  | none => some (fields ++ [(key, .tables [[]])])
  | some (.tables items) => some (OrderedMap.put key (.tables (items ++ [[]])) fields)
  | some _ => none

end Fields
end BeanKit.Settings.Toml

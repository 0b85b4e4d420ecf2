import BeanKit.Settings.Basic
import BeanKit.Settings.Yaml.Node
/-!
# YAML files

Reads a file of at most one YAML document, of which the root is a table. The keys of its tables are
texts or integers; reading stops without an answer where another key stands.
-/

namespace BeanKit.Settings.Yaml

/-- The name that a key writes. -/
def Node.key? : Node → Option String
  | .text s => some s
  | .int n => some (toString n)
  | _ => none

mutual

/-- A node as a tree. -/
def Node.tree : Node → Except SettingsError Tree
  | .nothing | .null => .ok .null
  | .bool b => .ok (.bool b)
  | .int n => .ok (.int n)
  | .number s =>
    match Number.double? s.toList with
    | some x => .ok (.float x)
    | none => .error .malformed
  | .text s => .ok (.text s)
  | .list items => (Node.trees items).map .list
  | .table fields => (Node.fieldTrees fields).map fun fs => .table (OrderedMap.ofList fs).entries

/-- Nodes as trees. -/
def Node.trees : List Node → Except SettingsError (List Tree)
  | [] => .ok []
  | n :: rest =>
    match n.tree with
    | .ok t => (Node.trees rest).map (t :: ·)
    | .error e => .error e

/-- The fields of a table as those of a tree. A key is looked at before its value. -/
def Node.fieldTrees : List (Node × Node) → Except SettingsError (List (String × Tree))
  | [] => .ok []
  | (k, n) :: rest =>
    match k.key? with
    | none => .error .abandoned
    | some key =>
      match n.tree with
      | .ok t => (Node.fieldTrees rest).map ((key, t) :: ·)
      | .error e => .error e

end

/-- The fields of the table that a document is. A text without a document has none. -/
def read (cs : List Char) : Except SettingsError (List (String × Tree)) :=
  match documents? cs with
  | some [] => .ok []
  | some [n] =>
    match n.tree with
    | .ok (.table fields) => .ok fields
    | .ok _ => .error .malformed
    | .error e => .error e
  | _ => .error .malformed

end BeanKit.Settings.Yaml

import BeanKit.Settings.Decode
import BeanKit.Settings.Format
import BeanKit.Settings.Place
/-!
# Where settings come from

Files and environment variables are laid over one another in the order in which they are named, and
the result has to fit the settings.
-/

namespace BeanKit

open BeanKit.Text

/-- A source of settings. -/
inductive SettingsSource where
  | file (path : String) ( isRequired : Bool)
  | environment (start : String)
  deriving Repr, DecidableEq

/-- The extension of a path: what follows the last point of its last name, where something stands
before that point. -/
def extension? (path : String) : Option String :=
  let name := (path.toList.reverse.takeWhile (· ≠ '/')).reverse
  let last := (name.reverse.takeWhile (· ≠ '.')).reverse
  if last.length + 1 < name.length ∧ name ≠ ['.', '.'] then some (String.ofList last) else none

/-- A path without the parts at its end that lead nowhere, as long as a name is in front of them. -/
def withoutIdleParts (path : String) : Option (List Char) :=
  let kept := (splitOn '/' path.toList).reverse.dropWhile fun part => part.isEmpty || part = ['.']
  if kept.isEmpty || kept.head? = some ['.', '.'] then none
  else some (['/'].intercalate kept.reverse)

/-- The files that a path without a file of its own may mean: those with the extension of a format
behind its last name. -/
def candidates (path : String) : List (FileFormat × String) :=
  match withoutIdleParts path with
  | none => []
  | some cs => FileFormat.all.flatMap fun f => f.extensions.map fun e =>
    (f, String.ofList cs ++ "." ++ e)

/-- The file that a path means, with its format: the file itself, or one with an extension behind
the path. -/
def locate? (s : Surroundings) (path : String) : Option (FileFormat × String) :=
  match s.content? path with
  | some content => ((extension? path).bind FileFormat.ofExtension?).map fun f => (f, content)
  | none =>
    (candidates path).findSome? fun (f, path) =>
      (s.content? path).map fun content => (f, content)

/-- What separates the keys of a path in the name of a variable. -/
def keySeparator : Char × Char := ('_', '_')

/-- The value that the text of a variable stands for: a truth value, an integer, a floating-point
number, or the text itself. -/
def variableValue (text : String) : Settings.Tree :=
  let word := lowerText text
  if word = "true" then .bool true
  else if word = "false" then .bool false
  else
    match Number.int64? text.toList, Number.double? text.toList with
    | some n, _ => .int n
    | none, some x => .float x
    | none, none => .text text

/-- The fields that variables give: those whose names start, in any case, with a word and an
underscore. A variable that is set twice has its first place and its last value; of two variables
for one key the later one counts. -/
def variableFields (start : String) (environment : List (String × String)) :
    List (String × Settings.Tree) :=
  let opening := (lowerText (start ++ "_")).toList
  let field (v : String × String) : Option (String × Settings.Tree) :=
    (after? opening (lowerText v.1).toList).map fun rest =>
      (String.ofList (['.'].intercalate (splitOnPair keySeparator.1 keySeparator.2 rest)),
        variableValue v.2)
  (OrderedMap.ofList ((OrderedMap.ofList environment).entries.filterMap field)).entries

namespace SettingsSource

/-- The fields of a source. A file that is not required may be missing, or be in no known format,
but what is there has to be well formed. -/
def fields (s : Surroundings) :
    SettingsSource → Except SettingsError (List (String × Settings.Tree))
  | .environment start => .ok (variableFields start s.environment)
  | .file path isRequired =>
    match locate? s path with
    | none => if isRequired then .error .malformed else .ok []
    | some (format, content) => format.read content

/-- Lays sources over a tree, one after the other. -/
def merge (s : Surroundings) (root : Settings.Tree) :
    List SettingsSource → Except SettingsError Settings.Tree
  | [] => .ok root
  | source :: rest =>
    match source.fields s with
    | .error e => .error e
    | .ok fields =>
      match root.overlay fields with
      | some root => merge s root rest
      | none => .error .abandoned

end SettingsSource

/-- A file that has to be there, as a source. -/
def requiredFile (s : Surroundings) (path : String) : Except SettingsError SettingsSource :=
  if s.holds path then .ok (.file path true) else .error (.fileNotFound path)

/-- The settings of some sources. -/
def loadSettings (s : Surroundings) (sources : List SettingsSource) :
    Except SettingsError Settings :=
  match SettingsSource.merge s .empty sources with
  | .error e => .error e
  | .ok tree =>
    match Settings.Manner.lenient.settings? tree with
    | some settings => .ok settings
    | none => .error .malformed

end BeanKit

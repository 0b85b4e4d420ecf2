import BeanKit.Settings.Ini
import BeanKit.Settings.Json
import BeanKit.Settings.Json5
import BeanKit.Settings.Ron
import BeanKit.Settings.Toml
import BeanKit.Settings.Yaml
/-!
# Formats of settings files

A format is known by the extensions of its files, and reads the text of a file as fields.
-/

namespace BeanKit

/-- The formats of settings files. -/
inductive FileFormat where
  | toml
  | json
  | yaml
  | ini
  | ron
  | json5
  deriving Repr, DecidableEq

namespace FileFormat

/-- The extensions of a format. -/
def extensions : FileFormat → List String
  | .toml => ["toml"]
  | .json => ["json"]
  | .yaml => ["yaml", "yml"]
  | .ini => ["ini"]
  | .ron => ["ron"]
  | .json5 => ["json5"]

/-- All formats. -/
def all : List FileFormat := [.toml, .json, .yaml, .ini, .ron, .json5]

/-- The format of an extension. -/
def ofExtension? (extension : String) : Option FileFormat :=
  all.find? (·.extensions.contains extension)

/-- What a reader that gives no reasons has found. -/
def found {α : Type} : Option α → Except SettingsError α
  | some a => .ok a
  | none => .error .malformed

/-- The fields that a file in a format has. -/
def read (f : FileFormat) (content : String) :
    Except SettingsError (List (String × Settings.Tree)) :=
  let cs := content.toList
  match f with
  | .toml => found (Settings.Toml.read cs)
  | .json => found (Settings.Json.read cs)
  | .yaml => Settings.Yaml.read cs
  | .ini => found (Settings.Ini.read cs)
  | .ron => found (Settings.Ron.read cs)
  | .json5 => found (Settings.Json5.read cs)

end FileFormat
end BeanKit

import BeanKit.Container.Bootstrap
import BeanKit.Settings.Logging
import BeanKit.Settings.Source
/-!
# Applications

An application is a started container together with the settings that it was started with. A plan
says where the settings and the types come from; building it settles the settings first, and only
then makes components. How the name of a log level is read is a parameter of building.
-/

namespace BeanKit

/-- Why an application could not be built. -/
inductive ApplicationError where
  | settings (source : SettingsError)
  | container (source : ContainerError)
  deriving Repr, DecidableEq

/-- The wording of an application error. -/
def ApplicationError.message : ApplicationError → String
  | .settings e => "配置错误: " ++ e.message
  | .container e => "容器错误: " ++ e.message

/-- Which logging an application sets up. -/
inductive LoggingChoice where
  | none
  | fromSettings
  | given (config : LoggingConfig)
  deriving Repr, DecidableEq

/-- What an application is built from. Settings that are given take the place of those from the
sources, and a namespace that is given takes the place of theirs. -/
structure Plan where
  sources : List SettingsSource := []
  settings : Option Settings := none
  space : Option String := none
  scanners : List Scanner := []
  definitions : List Definition := []
  validates : Bool := true
  logging : LoggingChoice := .none

/-- A started container and its settings. -/
structure Application where
  settings : Settings
  context : Context

namespace Plan

/-- The settings of a plan before they are checked. -/
def loaded (p : Plan) (s : Surroundings) : Except SettingsError Settings :=
  let settings : Except SettingsError Settings :=
    match p.settings with
    | some settings => .ok settings
    | none => loadSettings s p.sources
  settings.map fun t =>
    match p.space with
    | some space => { t with scan := { t.scan with space := space } }
    | none => t

/-- Checks settings where the plan says so. -/
def check (p : Plan) (t : Settings) : Except SettingsError Unit :=
  if p.validates then t.validate else .ok ()

/-- The logging that a plan asks for, where `parse` reads the level of the settings. -/
def loggingConfig (p : Plan) (parse : String → Option LogLevel) (t : Settings) :
    Except SettingsError (Option LoggingConfig) :=
  match p.logging with
  | .none => .ok none
  | .given config => .ok (some config)
  | .fromSettings => (LoggingConfig.readBy parse t.logging).map some

/-- The settings of a plan once they and the logging are known to be good. -/
def prepare (p : Plan) (parse : String → Option LogLevel) (s : Surroundings) :
    Except SettingsError Settings := do
  let t ← p.loaded s
  p.check t
  let _ ← p.loggingConfig parse t
  return t

/-- The scanners of a plan; without any the inventory is scanned. -/
def allScanners (p : Plan) (types : Inventory) : List Scanner :=
  if p.scanners.isEmpty then [.inventory types] else p.scanners

/-- The catalog of a plan: the built-in types where the settings want them, then what each scanner
finds in the namespace, then the definitions of the plan. -/
def catalog (p : Plan) (types : Inventory) (t : Settings) : Catalog :=
  let base : Catalog := if t.scan.includeBuiltins then Catalog.addAll .empty builtins else .empty
  let scanned := (p.allScanners types).foldl (fun c s => c.addAll (s.scan t.scan.space)) base
  scanned.addAll p.definitions

/-- Builds an application. What the container has done stays on the stage, also where it fails. -/
def build (p : Plan) (parse : String → Option LogLevel) (s : Surroundings) (types : Inventory)
    (stage : Stage) : Except ApplicationError Application × Stage :=
  match p.prepare parse s with
  | .error e => (.error (.settings e), stage)
  | .ok t =>
    let run : Except ContainerError Context × Stage := (bootstrap (p.catalog types t)).run.run stage
    match run with
    | (.ok context, stage) => (.ok ⟨t, context⟩, stage)
    | (.error e, stage) => (.error (.container e), stage)

end Plan

namespace Application

/-- The descriptors of the catalog, in order. -/
def descriptors (a : Application) : List Descriptor := a.context.catalog.descriptors

/-- The catalog as a written document. -/
def catalogText (a : Application) : String := a.context.catalog.text

end Application
end BeanKit

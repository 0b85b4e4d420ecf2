import BeanKit.Application
import BeanKit.Sample.Library
import BeanKit.Sample.Shop
/-!
# The command line

A program that starts the samples in a container and prints the statements that they ask for. What
it prints, and how it ends, follows from its arguments and from what it sees of its surroundings.
-/

namespace BeanKit.CommandLine

open BeanKit.Sample

/-- The name of the program, which its types live under. -/
def program : String := "example_app"

/-- What the names of the environment variables start with. -/
def variableStart : String := "LORN_DI"

/-- Which samples to run. -/
inductive Choice where
  | shop
  | library
  | all
  deriving Repr, DecidableEq

namespace Choice

/-- The choices. -/
def every : List Choice := [.shop, .library, .all]

/-- The word for a choice. -/
def word : Choice → String
  | .shop => "shop"
  | .library => "library"
  | .all => "all"

/-- Reads a choice. -/
def parse? (s : String) : Option Choice := every.find? (·.word = s)

end Choice

/-- The options that take a value. -/
inductive ValueOption where
  | config
  | space
  | sample
  | logLevel
  deriving Repr, DecidableEq

namespace ValueOption

/-- The option of a long name. -/
def ofName? : String → Option ValueOption
  | "config" => some .config
  | "namespace" => some .space
  | "sample" => some .sample
  | "log-level" => some .logLevel
  | _ => none

/-- The option of a letter. -/
def ofLetter? : Char → Option ValueOption
  | 'c' => some .config
  | 'n' => some .space
  | 's' => some .sample
  | _ => none

end ValueOption

/-- What the arguments say. An option that is missing is not given. -/
structure Arguments where
  config : Option String := none
  space : Option String := none
  sample : Option Choice := none
  logLevel : Option String := none
  dumpCatalog : Bool := false
  deriving Repr, DecidableEq

/-- Why arguments are not acted on: they ask for help, or are not accepted. -/
inductive Stop where
  | help
  | refused
  deriving Repr, DecidableEq

namespace Arguments

/-- Sets an option that is not set yet. -/
def setOnce {α : Type} (old : Option α) (new : Option α) : Except Stop (Option α) :=
  match old, new with
  | none, some a => .ok (some a)
  | _, _ => .error .refused

/-- Gives an option its value. No option is given twice, and the path of a file is not empty. -/
def set (a : Arguments) (o : ValueOption) (value : String) : Except Stop Arguments :=
  match o with
  | .config =>
    (setOnce a.config (if value.isEmpty then none else some value)).map ({ a with config := · })
  | .space => (setOnce a.space (some value)).map ({ a with space := · })
  | .sample => (setOnce a.sample (Choice.parse? value)).map ({ a with sample := · })
  | .logLevel => (setOnce a.logLevel (some value)).map ({ a with logLevel := · })

/-- Sets the flag that asks for the catalog. -/
def setDump (a : Arguments) : Except Stop Arguments :=
  if a.dumpCatalog then .error .refused else .ok { a with dumpCatalog := true }

/-- Takes a long option: its name, and behind an equals sign its value. The second part of the
answer is the option that the next argument gives a value to. -/
def takeLong (a : Arguments) (cs : List Char) : Except Stop (Arguments × Option ValueOption) :=
  let name := String.ofList (cs.takeWhile (· ≠ '='))
  match ValueOption.ofName? name, cs.dropWhile (· ≠ '=') with
  | some o, _ :: value => (a.set o (String.ofList value)).map (·, none)
  | some o, [] => .ok (a, some o)
  | none, _ :: _ => .error .refused
  | none, [] =>
    if name = "dump-catalog" then a.setDump.map (·, none)
    else if name = "help" then .error .help
    else .error .refused

/-- Takes a letter and what stands behind it in the same argument, which is the value of its option,
an equals sign in front of it left out. -/
def takeLetters (a : Arguments) : List Char → Except Stop (Arguments × Option ValueOption)
  | [] => .error .refused
  | c :: rest =>
    match ValueOption.ofLetter? c, rest with
    | some o, [] => .ok (a, some o)
    | some o, '=' :: value => (a.set o (String.ofList value)).map (·, none)
    | some o, value => (a.set o (String.ofList value)).map (·, none)
    | none, _ => if c = 'h' then .error .help else .error .refused

/-- Whether an argument can only be a value: it does not start with a dash, or is a dash alone. -/
def isValue (cs : List Char) : Bool := cs.head? ≠ some '-' || cs = ['-']

/-- Takes the arguments in turn. `pending` is the option that still waits for its value. -/
def parseFrom (a : Arguments) (pending : Option ValueOption) :
    List String → Except Stop Arguments
  | [] => if pending.isSome then .error .refused else .ok a
  | arg :: rest =>
    match pending with
    | some o =>
      if isValue arg.toList then (a.set o arg).bind fun a => parseFrom a none rest
      else .error .refused
    | none =>
      match arg.toList with
      | ['-', '-'] => if rest.isEmpty then .ok a else .error .refused
      | '-' :: '-' :: name => (a.takeLong name).bind fun (a, pending) => parseFrom a pending rest
      | '-' :: c :: letters =>
        (a.takeLetters (c :: letters)).bind fun (a, pending) => parseFrom a pending rest
      | _ => .error .refused

/-- Reads the arguments of a program. -/
def parse (args : List String) : Except Stop Arguments := parseFrom {} none args

/-- The path of the settings file. -/
def configPath (a : Arguments) : String := a.config.getD "config/container.toml"

/-- What the program is built from. The namespace is always given, so the one in the settings does
not count. -/
def plan (a : Arguments) (level : Option LogLevel) : Plan :=
  { sources := [.file a.configPath false, .environment variableStart]
    space := some (a.space.getD program)
    logging := level.elim .fromSettings fun level => .given { level } }

end Arguments

/-- How a program ends: its exit code, and what it has printed. -/
structure Outcome where
  exitCode : Nat
  output : String := ""
  deriving Repr, DecidableEq

/-- The help text. -/
def helpText : String :=
  "\n".intercalate
    ["Lorn DI 示例应用",
     "",
     "Usage: example-app [OPTIONS]",
     "",
     "Options:",
     "  -c, --config <CONFIG>        配置文件路径（不存在时使用默认配置与环境变量） " ++
       "[default: config/container.toml]",
     "  -n, --namespace <NAMESPACE>  扫描的命名空间，覆盖配置文件",
     "  -s, --sample <SAMPLE>        要运行的示例 [default: all] " ++
       "[possible values: shop, library, all]",
     "      --log-level <LOG_LEVEL>  日志级别，覆盖配置文件",
     "      --dump-catalog           打印类型目录（JSON）后退出",
     "  -h, --help                   Print help",
     ""]

/-- The types of the samples. -/
def types : Inventory := .ofSubmissions (Shop.definitions program ++ Library.definitions program)

/-- The service of a sample in a started container. -/
def component? (x : Context) (name : String) (stage : Stage) : Option (Instances × Bean) :=
  match ((x.component name).run.run stage : Except ContainerError Bean × Stage) with
  | (.ok b, stage) => some (stage.instances, b)
  | (.error _, _) => none

/-- The statements of the shop. -/
def shopTour (x : Context) (stage : Stage) : Option (List String) :=
  (component? x (Shop.serviceName program) stage).bind fun (s, b) =>
    (ShopService.ofBean s b).tour.toOption

/-- The statements of the library. -/
def libraryTour (x : Context) (stage : Stage) : Option (List String) :=
  (component? x (Library.serviceName program) stage).bind fun (s, b) =>
    (BookService.ofBean s b).tour.toOption

/-- What a built program prints, line by line; nothing where a sample fails. -/
def lines? (a : Arguments) (app : Application) (stage : Stage) : Option (List String) :=
  if a.dumpCatalog then some [app.catalogText]
  else
    match a.sample.getD .all with
    | .shop => shopTour app.context stage
    | .library => libraryTour app.context stage
    | .all => do
      let shop ← shopTour app.context stage
      let library ← libraryTour app.context stage
      return shop ++ library

/-- The level that the arguments ask for, where they name one; the outer result is missing where
there is no such level. -/
def level? (a : Arguments) : Option (Option LogLevel) :=
  match a.logLevel with
  | none => some none
  | some name => (LogLevel.parse? name).map some

/-- Runs the program on arguments that were accepted. It fails with code 1, and with code 101 where
loading stops without an answer. -/
def runWith (s : Surroundings) (a : Arguments) : Outcome :=
  match level? a with
  | none => { exitCode := 1 }
  | some level =>
    match (a.plan level).build LogLevel.parse? s types {} with
    | (.error (.settings .abandoned), _) => { exitCode := 101 }
    | (.error _, _) => { exitCode := 1 }
    | (.ok app, stage) =>
      match lines? a app stage with
      | some lines => { exitCode := 0, output := String.join (lines.map (· ++ "\n")) }
      | none => { exitCode := 1 }

/-- Runs the program. Arguments that are not accepted end it with code 2. -/
def run (s : Surroundings) (args : List String) : Outcome :=
  match Arguments.parse args with
  | .error .help => { exitCode := 0, output := helpText }
  | .error .refused => { exitCode := 2 }
  | .ok a => runWith s a

end BeanKit.CommandLine

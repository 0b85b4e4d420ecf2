import BeanKit.Text.Letters
import BeanKit.Text.Pieces
/-!
# Settings

What a container can be told from outside: the namespace that it takes its types from, whether the
built-in types are among them, and how it logs. Settings are checked before they are used.
-/

namespace BeanKit

open BeanKit.Text

/-- Where types are taken from. -/
structure ScanSettings where
  space : String := ""
  includeBuiltins : Bool := true
  deriving Repr, DecidableEq

/-- How to log. -/
structure LogSettings where
  level : String := "info"
  json : Bool := false
  deriving Repr, DecidableEq

/-- The settings of a container. -/
structure Settings where
  scan : ScanSettings := {}
  logging : LogSettings := {}
  deriving Repr, DecidableEq

/-- What is wrong with settings, or with where they come from. `abandoned` is a file or variable at
which loading stops without an answer. -/
inductive SettingsError where
  | fileNotFound (path : String)
  | malformed
  | abandoned
  | invalidNamespace (space : String)
  | invalidLevel (level : String)
  deriving Repr, DecidableEq

/-- The wording of a settings error. -/
def SettingsError.message : SettingsError → String
  | .fileNotFound path => "配置文件不存在: " ++ path
  | .malformed | .abandoned => "配置解析失败"
  | .invalidNamespace space => "配置验证失败: 命名空间格式无效: " ++ space
  | .invalidLevel level => "配置验证失败: 日志级别无效: " ++ level

namespace Settings

/-- Whether a piece of a namespace is an identifier: a letter or an underscore, then letters, digits
and underscores. -/
def isIdentifier : List Char → Bool
  | [] => false
  | c :: rest => (isAlphabetic c || c = '_') && rest.all fun d => isAlphanumeric d || d = '_'

/-- Whether a namespace is well formed: identifiers with separators between them, and separators at
its end. -/
def isNamespace (space : List Char) : Bool :=
  let trimmed := dropTails [':', ':'] space
  trimmed.isEmpty || (splitOnPair ':' ':' trimmed).all isIdentifier

/-- The levels that settings may name. -/
def levelNames : List String := ["trace", "debug", "info", "warn", "error"]

end Settings

/-- Checks the namespace. -/
def ScanSettings.validate (s : ScanSettings) : Except SettingsError Unit :=
  if Settings.isNamespace s.space.toList then .ok () else .error (.invalidNamespace s.space)

/-- Checks the level, which may be written in any case. -/
def LogSettings.validate (s : LogSettings) : Except SettingsError Unit :=
  let level := lowerAsciiText s.level
  if Settings.levelNames.contains level then .ok () else .error (.invalidLevel level)

/-- Checks settings, the namespace first. -/
def Settings.validate (s : Settings) : Except SettingsError Unit :=
  match s.scan.validate with
  | .ok () => s.logging.validate
  | .error e => .error e

end BeanKit

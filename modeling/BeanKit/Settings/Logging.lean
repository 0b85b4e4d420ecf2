import BeanKit.Settings.Basic
/-!
# Logging

How a program logs once its settings are known. A level can also be written as its number, with
which the validation of settings does not agree.
-/

namespace BeanKit

open BeanKit.Text

/-- How important a message must be. -/
inductive LogLevel where
  | error
  | warn
  | info
  | debug
  | trace
  deriving Repr, DecidableEq

namespace LogLevel

/-- The levels, from the most important one on. -/
def all : List LogLevel := [.error, .warn, .info, .debug, .trace]

/-- The name of a level. -/
def name : LogLevel → String
  | .error => "ERROR"
  | .warn => "WARN"
  | .info => "INFO"
  | .debug => "DEBUG"
  | .trace => "TRACE"

/-- The number that a text of digits writes, with or without a plus sign. -/
def number? : List Char → Option Nat
  | '+' :: rest => nat? rest
  | cs => nat? cs

/-- Reads a level: a number from one on, or a name in any case. -/
def parse? (s : String) : Option LogLevel :=
  match number? s.toList with
  | some (n + 1) => all[n]?
  | some 0 => none
  | none => all.find? fun l => lowerAsciiText l.name = lowerAsciiText s

end LogLevel

/-- How a program logs. -/
structure LoggingConfig where
  level : LogLevel := .info
  showTarget : Bool := true
  showThreadIds : Bool := false
  showFile : Bool := false
  showLineNumber : Bool := false
  jsonFormat : Bool := false
  deriving Repr, DecidableEq

/-- The logging that settings ask for, where `parse` reads their level. -/
def LoggingConfig.readBy (parse : String → Option LogLevel) (s : LogSettings) :
    Except SettingsError LoggingConfig :=
  match parse s.level with
  | some level => .ok { level, jsonFormat := s.json }
  | none => .error (.invalidLevel s.level)

end BeanKit

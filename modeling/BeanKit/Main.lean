import BeanKit.CommandLine
/-!
# The program

Reads the settings file and the environment, runs the command line on them, and prints what it has
to say.
-/

open BeanKit

/-- The content of a file, where it can be read. -/
def readIfThere (path : String) : IO (List (String × String)) := do
  try
    return [(path, ← IO.FS.readFile path)]
  catch _ =>
    return []

/-- The environment variables, in their order. -/
def readVariables : IO (List (String × String)) := do
  let files ← readIfThere "/proc/self/environ"
  let entries := (files.map (·.2)).flatMap fun text => Text.splitOn '\x00' text.toList
  return entries.filterMap fun entry =>
    match entry.dropWhile (· ≠ '=') with
    | _ :: value => some (String.ofList (entry.takeWhile (· ≠ '=')), String.ofList value)
    | [] => none

/-- The settings file under a path, or with an extension behind it. -/
def readSettings (path : String) : IO (List (String × String)) := do
  let found ← (path :: (candidates path).map (·.2)).mapM readIfThere
  return found.flatten

def main (args : List String) : IO UInt32 := do
  let files ← match CommandLine.Arguments.parse args with
    | .ok a => readSettings a.configPath
    | .error _ => pure []
  let outcome := CommandLine.run { files, environment := ← readVariables } args
  IO.print outcome.output
  return outcome.exitCode.toUInt32

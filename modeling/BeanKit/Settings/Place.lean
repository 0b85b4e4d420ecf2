import BeanKit.Text.Pieces
/-!
# Paths and places

What a program sees of its surroundings is a list of files by path and a list of environment
variables. A path is walked part by part and leads to a place; every place that is left on the way
has to be a directory. The directories are those that the paths of the files pass through.
-/

namespace BeanKit

open BeanKit.Text

/-- A place among directories, seen from the root or from the working directory: so many directories
up, and then down along names. -/
structure Place where
  isRooted : Bool := false
  ups : Nat := 0
  names : List (List Char) := []
  deriving Repr, DecidableEq

namespace Place

/-- The place above. The root is above itself. -/
def above (p : Place) : Place :=
  if p.names.isEmpty then (if p.isRooted then p else { p with ups := p.ups + 1 })
  else { p with names := p.names.dropLast }

/-- The place that a part of a path leads to. An empty part and a point lead nowhere, two points
lead up. -/
def step (p : Place) (part : List Char) : Place :=
  if part.isEmpty || part = ['.'] then p
  else if part = ['.', '.'] then p.above
  else { p with names := p.names ++ [part] }

/-- The places left on the way along the parts of a path. -/
def passed (p : Place) : List (List Char) → List Place
  | [] => []
  | part :: rest => p :: passed (p.step part) rest

/-- Where a path starts. -/
def start (path : String) : Place := { isRooted := path.toList.head? = some '/' }

/-- The parts of a path. -/
def parts (path : String) : List (List Char) := splitOn '/' path.toList

/-- Where a path leads, whatever lies on the way. -/
def ofPath (path : String) : Place := (parts path).foldl step (start path)

/-- The directories that a path passes through. -/
def directories (path : String) : List Place := passed (start path) (parts path)

end Place

/-- What a program sees of its surroundings: files by path, and environment variables in their
order. -/
structure Surroundings where
  files : List (String × String) := []
  environment : List (String × String) := []
  deriving Repr, DecidableEq

namespace Surroundings

/-- Whether a place is a directory. -/
def isDirectory (s : Surroundings) (p : Place) : Bool :=
  p.names.isEmpty || s.files.any fun f => (Place.directories f.1).contains p

/-- Walks along parts, out of directories only. -/
def walk? (s : Surroundings) (p : Place) : List (List Char) → Option Place
  | [] => some p
  | part :: rest => if s.isDirectory p then s.walk? (p.step part) rest else none

/-- The place that a path leads to. The empty path leads to none. -/
def reach? (s : Surroundings) (path : String) : Option Place :=
  if path.isEmpty then none else s.walk? (Place.start path) (Place.parts path)

/-- The content of the file at a place. Of two files there the later one counts. -/
def contentAt? (s : Surroundings) (p : Place) : Option String :=
  (s.files.reverse.find? fun f => Place.ofPath f.1 = p).map (·.2)

/-- The content of the file that a path leads to. -/
def content? (s : Surroundings) (path : String) : Option String := (s.reach? path).bind s.contentAt?

/-- Whether a path leads to a file or a directory. -/
def holds (s : Surroundings) (path : String) : Bool :=
  match s.reach? path with
  | some p => s.isDirectory p || (s.contentAt? p).isSome
  | none => false

end Surroundings
end BeanKit

import Supervision.Text.Pieces

/-!
# Directory trees

What is below a working directory, and what a path leads to there. A path is walked step by step: each step but the last
must lead to a directory, and nothing outside the tree can be reached.
-/

namespace Supervision

/-- A file with its bytes, or a directory. -/
inductive FileEntry where
  | directory
  | file (bytes : ByteArray)

/-- The entries below a working directory, by their names between slashes. A directory may go without an entry of its own
if something is in it. -/
structure FileTree where
  entries : List (List String × FileEntry)

namespace FilePath

/-- The steps of a path. -/
def steps (path : String) : List String :=
  Text.pieces '/' path

/-- Whether a step stays where it is. -/
def isIdle (step : String) : Bool :=
  step == "" || step == "."

/-- The steps of a path up to the last one that goes somewhere. -/
def trimmed (path : String) : List String :=
  ((steps path).reverse.dropWhile isIdle).reverse

/-- The name of the file that a path leads to, if it ends with a name. -/
def fileName? (path : String) : Option String :=
  match (trimmed path).getLast? with
  | some name => if name = ".." then none else some name
  | none => none

/-- The extension of a file name: what is behind its last point, which is not its first character. -/
def extension? (name : String) : Option String :=
  match name.toList.reverse.span (· != '.') with
  | (back, '.' :: _ :: _) => some (String.ofList back.reverse)
  | _ => none

/-- A path with an extension more, if it ends with a name. -/
def addExtension? (path extension : String) : Option String :=
  (fileName? path).map fun _ => "/".intercalate (trimmed path) ++ "." ++ extension

/-- A path without the steps that stay where they are. -/
def normal (path : String) : String :=
  "/".intercalate ((steps path).filter fun step => !isIdle step)

/-- The place that a path names when each step back undoes the step before it, if it names one in the tree. -/
def place? (path : String) : Option (List String) :=
  if path.toList.head? = some '/' then none
  else
    ((steps path).filter fun step => !isIdle step).foldlM (fun place step =>
      if step = ".." then if place.isEmpty then none else some place.dropLast else some (place ++ [step])) []

end FilePath

namespace FileTree

/-- The tree that holds one file at a path, and a directory wherever the path passes through one. -/
def ofFile (path : String) (bytes : ByteArray) : FileTree :=
  let steps := FilePath.steps path
  let passed := (List.range steps.length).filterMap fun n => FilePath.place? ("/".intercalate (steps.take n))
  ⟨(passed.map (·, .directory)) ++ ((FilePath.place? path).map (·, .file bytes)).toList⟩

/-- Whether a place in the tree is a directory. -/
def isDirectory (tree : FileTree) (place : List String) : Bool :=
  place.isEmpty || tree.entries.any fun (name, entry) =>
    match entry with
    | .directory => place.isPrefixOf name
    | .file _ => place.isPrefixOf name && place != name

/-- Walks steps from a directory of the tree. -/
def walk (tree : FileTree) (place : List String) : List String → Option (List String)
  | [] => some place
  | step :: rest =>
    if tree.isDirectory place then
      if FilePath.isIdle step then walk tree place rest
      else if step = ".." then if place.isEmpty then none else walk tree place.dropLast rest
      else walk tree (place ++ [step]) rest
    else none

/-- The place that a path leads to. -/
def resolve? (tree : FileTree) (path : String) : Option (List String) :=
  if path.toList.head? = some '/' then none else tree.walk [] (FilePath.steps path)

/-- The bytes of the file at a path. -/
def file? (tree : FileTree) (path : String) : Option ByteArray :=
  (tree.resolve? path).bind fun place => tree.entries.findSome? fun (name, entry) =>
    match entry with
    | .file bytes => if name = place then some bytes else none
    | .directory => none

end FileTree

end Supervision

import Supervision.Config.Conversion
import Supervision.FileTree
import Supervision.Toml.Document

/-!
# Loading a configuration

A configuration is layered: defaults, over them a TOML file if there is one, and over it the variables of the environment
whose names begin with `supervisor__`, in capital letters or not. `SupervisorConfig.load` finds the file and converts what
the layers give.
-/

namespace Supervision

/-- The defaults, of no origin, for the fields that have one of their own. -/
def defaultSettings : Setting :=
  .table none [
    ("shutdown", .table none [("exit_process", .scalar none (.bool true)), ("exit_code", .scalar none (.integer 0))]),
    ("logging", .table none [("level", .scalar none (.text "info")), ("format", .scalar none (.text "pretty"))])]

namespace Environment

/-- What the name of a variable begins with that belongs to the configuration. -/
def mark : String :=
  "supervisor__"

/-- The points that double underscores stand for. -/
def pointed : List Char → List Char
  | '_' :: '_' :: rest => '.' :: pointed rest
  | c :: rest => c :: pointed rest
  | [] => []

/-- The key that the name of a variable stands for, if it belongs to the configuration. -/
def key? (name : String) : Option String :=
  let s := (Text.lowerCase name).toList
  if mark.toList.isPrefixOf s then some (String.ofList (pointed (s.drop mark.length))) else none

/-- The settings that variables give. -/
def settings (environment : List (String × String)) : List (String × Setting) :=
  environment.filterMap fun (name, value) =>
    (key? name).map fun key => (key, .scalar (some "the environment") (.text value))

end Environment

namespace ConfigFile

/-- The file that a path means: the one at the path if that is a TOML file by its name, or where nothing is at the path,
the one with the extension added. With it comes the path that led to it. -/
def find? (tree : FileTree) (path : String) : Option (String × ByteArray) :=
  match tree.file? path with
  | some bytes =>
    if (FilePath.fileName? path).bind FilePath.extension? = some "toml" then some (path, bytes) else none
  | none => do
    let path ← FilePath.addExtension? path "toml"
    return (path, ← tree.file? path)

/-- The settings of a configuration file. One that is missing, or no text, has none. -/
def settings (tree : FileTree) (path : String) : Reply (List (String × Setting)) :=
  match (find? tree path).bind fun (path, bytes) => (String.fromUTF8? bytes).map (path, ·) with
  | none => .ok []
  | some (path, text) =>
    match Toml.parse? text with
    | none => .error (.config (.unreadable s!"TOML parse error in {FilePath.normal path}"))
    | some table => .ok (Setting.entriesOfToml (FilePath.normal path) table)

end ConfigFile

namespace SupervisorConfig

/-- The configuration that a file's settings and the variables of the environment give over the defaults. -/
def ofLayers (file : List (String × Setting)) (environment : List (String × String)) : Reply SupervisorConfig :=
  match ofSetting ((defaultSettings.layer file).layer (Environment.settings environment)) with
  | .ok c => .ok c
  | .error fault => .error (.config fault.toConfigFault)

/-- Loads a configuration. -/
def load (tree : FileTree) (path : String) (environment : List (String × String)) : Reply SupervisorConfig :=
  match ConfigFile.settings tree path with
  | .ok file => ofLayers file environment
  | .error e => .error e

end SupervisorConfig

end Supervision

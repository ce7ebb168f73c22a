import Supervision.Decimal.Digits
import Supervision.Decimal.Shortest
import Supervision.Text.LowerCase
import Supervision.Toml.Value

/-!
# Layered settings

Settings are a tree of values from several sources, each laid over the ones before it. A value may know its origin, for
the sake of error messages. The top-level keys of a source are paths into the tree (`SettingPath`); keys are compared in
lower case.
-/

namespace Supervision

open Decimal

/-- A value without parts. -/
inductive Scalar where
  | nil
  | bool (b : Bool)
  | integer (n : Int)
  | float (x : Binary64)
  | text (s : String)
deriving DecidableEq, Repr

/-- A tree of settings. -/
inductive Setting where
  | scalar (origin : Option String) (value : Scalar)
  | array (origin : Option String) (items : List Setting)
  | table (origin : Option String) (entries : List (String × Setting))

namespace Setting

instance : Inhabited Setting := ⟨.scalar none .nil⟩

/-- The absence of a value. -/
def nil : Setting := .scalar none .nil

/-- A table without entries and origin. -/
def emptyTable : Setting := .table none []

mutual

/-- The settings that a value of a TOML document stands for. Dates and times are texts. -/
def ofToml (origin : String) : Toml.Value → Setting
  | .string s => .scalar (some origin) (.text s)
  | .integer n => .scalar (some origin) (.integer n)
  | .float x => .scalar (some origin) (.float x)
  | .boolean b => .scalar (some origin) (.bool b)
  | .dateTime s => .scalar (some origin) (.text s)
  | .array items => .array (some origin) (listOfToml origin items)
  | .table entries => .table (some origin) (entriesOfToml origin entries)

/-- The settings of the items of an array. -/
def listOfToml (origin : String) : List Toml.Value → List Setting
  | [] => []
  | v :: rest => ofToml origin v :: listOfToml origin rest

/-- The settings of the entries of a table. -/
def entriesOfToml (origin : String) : List (String × Toml.Value) → List (String × Setting)
  | [] => []
  | (key, v) :: rest => (key, ofToml origin v) :: entriesOfToml origin rest

end

/-- The entries of a table; a setting that is no table has none. -/
def entries : Setting → List (String × Setting)
  | table _ entries => entries
  | _ => []

/-- The items of an array; a setting that is no array has none. -/
def items : Setting → List Setting
  | array _ items => items
  | _ => []

/-- Another table with the same origin, or without one where there was no table. -/
def withEntries (entries : List (String × Setting)) : Setting → Setting
  | table origin _ => table origin entries
  | _ => table none entries

/-- Another array with the same origin, or without one where there was no array. -/
def withItems (items : List Setting) : Setting → Setting
  | array origin _ => array origin items
  | _ => array none items

/-- Puts a setting under a key, in the place of what was there. -/
def putEntry (entries : List (String × Setting)) (key : String) (s : Setting) : List (String × Setting) :=
  match entries with
  | [] => [(key, s)]
  | (k, old) :: rest => if k = key then (k, s) :: rest else (k, old) :: putEntry rest key s

/-- Changes what is under a key; what is missing counts as the given setting. -/
def alterEntry (key : String) (missing : Setting) (f : Setting → Setting) (target : Setting) : Setting :=
  target.withEntries (putEntry target.entries key (f ((target.entries.lookup key).getD missing)))

/-- The position that an index means in a list of a length: a negative one counts from the end. -/
def position (index : Int) (length : Nat) : Nat :=
  if 0 ≤ index then index.toNat else length - (-index).toNat

/-- Changes the item at an index of an array, which grows by missing values up to there. -/
def alterItem (index : Int) (f : Setting → Setting) (target : Setting) : Setting :=
  let i := position index target.items.length
  let padded := target.items ++ List.replicate (i + 1 - target.items.length) nil
  target.withItems (padded.modify i f)

mutual

/-- Lays a setting over what is under a key: a table entry by entry, anything else in the place of what was there. -/
def overlay (key : String) (target : Setting) : Setting → Setting
  | table _ incoming => alterEntry (Text.lowerCase key) emptyTable (fun old => overlayAll old incoming) target
  | s => alterEntry (Text.lowerCase key) nil (fun _ => s) target

/-- Lays entries over a setting, which becomes a table if there are any. -/
def overlayAll (target : Setting) : List (String × Setting) → Setting
  | [] => target
  | (key, s) :: rest => overlayAll (overlay key target s) rest

end

end Setting

/-- A step into a tree of settings. -/
inductive SettingStep where
  | child (key : String)
  | item (index : Int)
deriving DecidableEq, Repr

/-- A path into a tree of settings: a key and further steps. -/
structure SettingPath where
  root : String
  steps : List SettingStep
deriving DecidableEq, Repr

namespace SettingPath

/-- A character of a key in a path. -/
def isKeyChar (c : Char) : Bool :=
  c.isAlphanum || c == ' ' || c == '_' || c == '-'

/-- A blank around an index. -/
def isIndexBlank (c : Char) : Bool :=
  c == ' ' || c == '\t'

/-- Reads an index and its closing bracket. -/
def index? (s : List Char) : Option (Int × List Char) :=
  let s := s.dropWhile isIndexBlank
  let (negative, s) := match s with
    | '-' :: rest => (true, rest)
    | s => (false, s)
  match s.takeWhile Char.isDigit, (s.dropWhile Char.isDigit).dropWhile isIndexBlank with
  | [], _ => none
  | digits, ']' :: rest =>
    let n : Int := numberIn 10 digits
    let n := if negative then -n else n
    if -0x8000000000000000 ≤ n ∧ n < 0x8000000000000000 then some (n, rest) else none
  | _, _ => none

/-- Reads steps to the end of a path; the number bounds how many. -/
def steps? : Nat → List Char → Option (List SettingStep)
  | _, [] => some []
  | 0, _ => none
  | n + 1, '.' :: rest =>
    match rest.takeWhile isKeyChar with
    | [] => none
    | key => (steps? n (rest.dropWhile isKeyChar)).map (.child (String.ofList key) :: ·)
  | n + 1, '[' :: rest => do
    let (i, rest) ← index? rest
    return .item i :: (← steps? n rest)
  | _, _ => none

/-- The path that a key writes, if it writes one. -/
def parse? (key : String) : Option SettingPath :=
  let s := key.toList
  match s.takeWhile isKeyChar with
  | [] => none
  | root => (steps? s.length (s.dropWhile isKeyChar)).map (⟨String.ofList root, ·⟩)

/-- The path of a key: the one that it writes, or else the whole key as one step. -/
def ofKey (key : String) : SettingPath :=
  (parse? key).getD ⟨key, []⟩

/-- Lays a setting over what a key and further steps lead to in a tree. What is on the way becomes a table or an array as
the steps demand. -/
def setFrom (value : Setting) : String → List SettingStep → Setting → Setting
  | key, [], target => Setting.overlay key target value
  | key, .child next :: steps, target =>
    Setting.alterEntry (Text.lowerCase key) Setting.nil (setFrom value next steps) target
  | key, .item i :: steps, target =>
    Setting.alterEntry (Text.lowerCase key) Setting.nil (setItem value i steps) target
where
  /-- The same for an index and further steps. What an index leads to is replaced, be it a table or not. -/
  setItem (value : Setting) : Int → List SettingStep → Setting → Setting
  | i, [], target => Setting.alterItem i (fun _ => value) target
  | i, .child next :: steps, target => Setting.alterItem i (setFrom value next steps) target
  | i, .item j :: steps, target => Setting.alterItem i (setItem value j steps) target

/-- Lays a setting over what a path leads to. -/
def set (path : SettingPath) (value target : Setting) : Setting :=
  setFrom value path.root path.steps target

end SettingPath

namespace Setting

/-- Lays a source over settings: each of its top-level keys is a path. -/
def layer (settings : Setting) (source : List (String × Setting)) : Setting :=
  source.foldl (fun target (key, s) => (SettingPath.ofKey key).set s target) settings

end Setting

end Supervision

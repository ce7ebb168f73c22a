import Supervision.Config
import Supervision.Config.Setting
import Supervision.Error
import Supervision.Text.Quoted

/-!
# Configurations from settings

Settings are converted to a configuration leniently: truth values, numbers and texts turn into one another where that
makes sense. What cannot be converted is a `SettingFault`, which knows the key and the origin of the offending value.
-/

namespace Supervision

open Decimal

/-- Why settings are no configuration. -/
inductive SettingFault where
  /-- A value cannot be converted. The key is built up on the way out. -/
  | mistyped (found wanted : String) (key : String) (origin : Option String)
  /-- A section or a heartbeat has the wrong shape. -/
  | misshapen (message : String)
deriving DecidableEq, Repr

namespace SettingFault

/-- A fault of a value under a key. A point joins two keys, but no key and an index. -/
def underKey (key : String) : SettingFault → SettingFault
  | mistyped found wanted inner origin =>
    let joint := if inner = "" ∨ inner.toList.head? = some '[' then "" else "."
    mistyped found wanted (key ++ joint ++ inner) origin
  | fault => fault

/-- A fault of an item of an array. -/
def underIndex (i : Nat) : SettingFault → SettingFault
  | mistyped found wanted inner origin => mistyped found wanted (s!"[{i}]" ++ inner) origin
  | fault => fault

/-- The fault as one of the configuration. -/
def toConfigFault : SettingFault → ConfigFault
  | mistyped found wanted key origin =>
    .mistyped (s!"invalid type: {found}, expected {wanted} for key " ++ "\x60" ++ key ++ "\x60"
      ++ match origin with
        | some origin => s!" in {origin}"
        | none => "")
  | misshapen m => .invalid m

end SettingFault

/-- What a conversion of a setting gives. -/
abbrev Conversion (α : Type) := Except SettingFault α

/-- A text between the marks that single out code in messages. -/
def coded (s : String) : String :=
  "\x60" ++ s ++ "\x60"

namespace Setting

/-- The fault of a value that is of another kind than wanted. -/
def mistyped {α : Type} (found wanted : String) (origin : Option String) : Conversion α :=
  .error (.mistyped found wanted "" origin)

/-- A truth value: a number is true unless it is zero, and a few words are true or false. -/
def toBool : Setting → Conversion Bool
  | .scalar origin value =>
    match value with
    | .bool b => .ok b
    | .integer n => .ok (n != 0)
    | .float x => .ok !x.isZero
    | .text s =>
      let s := Text.lowerCase s
      if s ∈ ["1", "true", "on", "yes"] then .ok true
      else if s ∈ ["0", "false", "off", "no"] then .ok false
      else mistyped ("string " ++ Text.quoted s) "a boolean" origin
    | .nil => mistyped "unit value" "a boolean" origin
  | .array origin _ => mistyped "sequence" "a boolean" origin
  | .table origin _ => mistyped "map" "a boolean" origin

/-- The integer that a text writes: an optional sign and decimal digits, the sign a minus only where that is allowed. -/
def integerOfText? (negatives : Bool) (s : String) : Option Int :=
  let (negative, digits) := match s.toList with
    | '+' :: rest => (false, rest)
    | '-' :: rest => if negatives then (true, rest) else (false, '-' :: rest)
    | s => (false, s)
  if digits.isEmpty || !digits.all Char.isDigit then none
  else some (if negative then -(numberIn 10 digits : Int) else numberIn 10 digits)

/-- An integer between two bounds that a text writes; some words count as one or zero. -/
def integerOfWord? (low high : Int) (s : String) : Option Int :=
  let word := Text.lowerCase s
  if word ∈ ["true", "on", "yes"] then some 1
  else if word ∈ ["false", "off", "no"] then some 0
  else (integerOfText? (low < 0) s).bind fun n => if low ≤ n ∧ n ≤ high then some n else none

/-- An integer between two bounds. A fraction is rounded, and what lies beyond the bounds is moved to them. -/
def toIntegerWithin (low high : Int) : Setting → Conversion Int
  | .scalar origin value =>
    match value with
    | .bool b => .ok (if b then 1 else 0)
    | .integer n =>
      if low ≤ n ∧ n ≤ high then .ok n
      else mistyped ("64-bit integer " ++ coded (toString n)) "an unsigned 64 bit or less integer" origin
    | .float x => .ok (x.toIntWithin low high)
    | .text s =>
      match integerOfWord? low high s with
      | some n => .ok n
      | none => mistyped ("string " ++ Text.quoted s) "an integer" origin
    | .nil => mistyped "unit value" "an integer" origin
  | .array origin _ => mistyped "sequence" "an integer" origin
  | .table origin _ => mistyped "map" "an integer" origin

/-- An integer of 32 bits. One of 64 bits that is none of 32 has lost its origin. -/
def toInt32 (s : Setting) : Conversion Int32 := do
  let n ← s.toIntegerWithin (-0x8000000000000000) 0x7fffffffffffffff
  if -0x80000000 ≤ n ∧ n < 0x80000000 then return Int32.ofInt n
  else mistyped ("64-bit integer " ++ coded (toString n)) "an signed 32 bit integer" none

/-- An unsigned integer of 64 bits. -/
def toUInt64 (s : Setting) : Conversion UInt64 := do
  return UInt64.ofNat (← s.toIntegerWithin 0 0xffffffffffffffff).toNat

/-- A text. Truth values and numbers have one. -/
def toText : Setting → Conversion String
  | .scalar origin value =>
    match value with
    | .text s => .ok s
    | .bool b => .ok (toString b)
    | .integer n => .ok (toString n)
    | .float x => .ok x.text
    | .nil => mistyped "unit value" "a string" origin
  | .array origin _ => mistyped "sequence" "a string" origin
  | .table origin _ => mistyped "map" "a string" origin

/-- A text, or nothing where the value is missing. -/
def toText? : Setting → Conversion (Option String)
  | .scalar _ .nil => .ok none
  | s => return some (← s.toText)

/-- A setting as messages about shapes call it. -/
def description : Setting → String
  | .scalar _ .nil => "unit value"
  | .scalar _ (.bool b) => "boolean " ++ coded (toString b)
  | .scalar _ (.integer n) => "integer " ++ coded (toString n)
  | .scalar _ (.float x) => "floating point " ++ coded x.pointedText
  | .scalar _ (.text s) => "string " ++ Text.quoted s
  | .array .. => "sequence"
  | .table .. => "map"

/-- The fault of a setting that has another shape than expected. -/
def misshapen {α : Type} (s : Setting) (expected : String) : Conversion α :=
  .error (.misshapen s!"invalid type: {s.description}, expected {expected}")

end Setting

namespace Conversion

/-- Converts a field of a section by its key. -/
def field {α : Type} (entries : List (String × Setting)) (key : String) (convert : Setting → Conversion α) :
    Conversion (Option α) :=
  match entries.lookup key with
  | none => .ok none
  | some s => (convert s).mapError (·.underKey key) |>.map some

/-- Converts a field of a section by its position. -/
def position {α : Type} (items : List Setting) (i : Nat) (convert : Setting → Conversion α) : Conversion (Option α) :=
  match items[i]? with
  | none => .ok none
  | some s => (convert s).mapError (·.underIndex i) |>.map some

/-- The fault of a section that is given as too short an array. -/
def tooShort {α : Type} (length : Nat) (expected : String) : Conversion α :=
  .error (.misshapen s!"invalid length {length}, expected struct {expected}")

end Conversion

/-- Converts how to exit: a table, or an array of the fields in their order. -/
def ShutdownConfig.ofSetting (s : Setting) : Conversion ShutdownConfig :=
  match s with
  | .table _ entries => do
    let exitProcess ← Conversion.field entries "exit_process" Setting.toBool
    let exitCode ← Conversion.field entries "exit_code" Setting.toInt32
    return ⟨exitProcess.getD true, exitCode.getD 0⟩
  | .array _ items => do
    let exitProcess ← Conversion.position items 0 Setting.toBool
    let exitCode ← Conversion.position items 1 Setting.toInt32
    return ⟨exitProcess.getD true, exitCode.getD 0⟩
  | s => s.misshapen "struct ShutdownConfig"

/-- Converts how to log: a table, or an array of the fields in their order, none of them missing. -/
def LoggingConfig.ofSetting (s : Setting) : Conversion LoggingConfig :=
  match s with
  | .table _ entries => do
    let level ← Conversion.field entries "level" Setting.toText
    let format ← Conversion.field entries "format" Setting.toText
    let file ← Conversion.field entries "file" Setting.toText?
    return ⟨level.getD "info", format.getD "pretty", file.join⟩
  | .array _ items => do
    let level ← Conversion.position items 0 Setting.toText
    let format ← Conversion.position items 1 Setting.toText
    match ← Conversion.position items 2 Setting.toText? with
    | some file => return ⟨level.getD "info", format.getD "pretty", file⟩
    | none => Conversion.tooShort 2 "LoggingConfig with 3 elements"
  | s => s.misshapen "struct LoggingConfig"

/-- Converts a heartbeat: a table, or an array of the fields in their order. Its name must not be missing. -/
def HeartbeatConfig.ofSetting (s : Setting) : Conversion HeartbeatConfig :=
  match s with
  | .table _ entries => do
    let name ← Conversion.field entries "name" Setting.toText
    let intervalMs ← Conversion.field entries "interval_ms" Setting.toUInt64
    match name with
    | some name => return ⟨name, intervalMs.getD 1000⟩
    | none => .error (.misshapen ("missing field " ++ coded "name"))
  | .array _ items => do
    let name ← Conversion.position items 0 Setting.toText
    let intervalMs ← Conversion.position items 1 Setting.toUInt64
    match name with
    | some name => return ⟨name, intervalMs.getD 1000⟩
    | none => Conversion.tooShort 0 "HeartbeatConfig with 2 elements"
  | s => s.misshapen "struct HeartbeatConfig"

/-- Converts heartbeats from an index on. -/
def HeartbeatConfig.listFrom (i : Nat) : List Setting → Conversion (List HeartbeatConfig)
  | [] => .ok []
  | s :: rest => do
    let h ← (HeartbeatConfig.ofSetting s).mapError (·.underIndex i)
    return h :: (← listFrom (i + 1) rest)

/-- Converts the list of heartbeats. -/
def HeartbeatConfig.listOfSetting (s : Setting) : Conversion (List HeartbeatConfig) :=
  match s with
  | .array _ items => HeartbeatConfig.listFrom 0 items
  | s => s.misshapen "a sequence"

/-- Converts the whole configuration. Unknown keys are passed over. -/
def SupervisorConfig.ofSetting (s : Setting) : Conversion SupervisorConfig := do
  let shutdown ← Conversion.field s.entries "shutdown" ShutdownConfig.ofSetting
  let logging ← Conversion.field s.entries "logging" LoggingConfig.ofSetting
  let heartbeat ← Conversion.field s.entries "heartbeat" HeartbeatConfig.listOfSetting
  return ⟨shutdown.getD {}, logging.getD {}, heartbeat.getD []⟩

end Supervision

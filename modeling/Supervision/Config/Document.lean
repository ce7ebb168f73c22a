import Supervision.Config

/-!
# Configurations as structured documents

A `Document` is a tree of scalars, lists and named fields, as structured text formats give it. `SupervisorConfig.ofDocument?`
reads a configuration strictly: a missing field has its default and an unknown one is passed over, but a value must be of
the very kind that its field has. A record may also be a list of its fields in order.
-/

namespace Supervision

/-- A structured document. -/
inductive Document where
  | null
  | bool (b : Bool)
  | integer (n : Int)
  /-- A number that is not written as an integer. -/
  | fraction
  | text (s : String)
  | list (items : List Document)
  | fields (entries : List (String × Document))
deriving Inhabited

namespace Document

/-- The fields of a record by their names: they are given so, the last one of a name first, or as a list in the order of the
names, of which not more than the last few may be missing. -/
def record? (names : List String) (least : Nat) : Document → Option (List (String × Document))
  | fields entries => some entries.reverse
  | list items => if least ≤ items.length ∧ items.length ≤ names.length then some (names.zip items) else none
  | _ => none

/-- A field read by a reader, or the default where it is missing. -/
def fieldOr {α : Type} (entries : List (String × Document)) (name : String) (read? : Document → Option α) (default : α) :
    Option α :=
  match entries.lookup name with
  | none => some default
  | some d => read? d

/-- A truth value. -/
def bool? : Document → Option Bool
  | bool b => some b
  | _ => none

/-- A text. -/
def text? : Document → Option String
  | text s => some s
  | _ => none

/-- A text or null. -/
def optionalText? : Document → Option (Option String)
  | null => some none
  | text s => some (some s)
  | _ => none

/-- An integer of 32 bits. -/
def int32? : Document → Option Int32
  | integer n => if -0x80000000 ≤ n ∧ n < 0x80000000 then some (Int32.ofInt n) else none
  | _ => none

/-- An unsigned integer of 64 bits. -/
def uint64? : Document → Option UInt64
  | integer n => if 0 ≤ n ∧ n < 0x10000000000000000 then some (UInt64.ofNat n.toNat) else none
  | _ => none

end Document

/-- Reads how to exit. -/
def ShutdownConfig.ofDocument? (d : Document) : Option ShutdownConfig := do
  let entries ← d.record? ["exit_process", "exit_code"] 0
  let exitProcess ← Document.fieldOr entries "exit_process" Document.bool? true
  let exitCode ← Document.fieldOr entries "exit_code" Document.int32? 0
  return { exitProcess, exitCode }

/-- Reads how to log. In a list no field is missing. -/
def LoggingConfig.ofDocument? (d : Document) : Option LoggingConfig := do
  let entries ← d.record? ["level", "format", "file"] 3
  let level ← Document.fieldOr entries "level" Document.text? "info"
  let format ← Document.fieldOr entries "format" Document.text? "pretty"
  let file ← Document.fieldOr entries "file" Document.optionalText? none
  return { level, format, file }

/-- Reads a heartbeat, which has a name. -/
def HeartbeatConfig.ofDocument? (d : Document) : Option HeartbeatConfig := do
  let entries ← d.record? ["name", "interval_ms"] 1
  let name ← (entries.lookup "name").bind Document.text?
  let intervalMs ← Document.fieldOr entries "interval_ms" Document.uint64? 1000
  return { name, intervalMs }

/-- Reads a list of heartbeats. -/
def HeartbeatConfig.listOfDocument? : Document → Option (List HeartbeatConfig)
  | .list items => items.mapM HeartbeatConfig.ofDocument?
  | _ => none

/-- Reads a configuration. -/
def SupervisorConfig.ofDocument? (d : Document) : Option SupervisorConfig := do
  let entries ← d.record? ["shutdown", "logging", "heartbeat"] 0
  let shutdown ← Document.fieldOr entries "shutdown" ShutdownConfig.ofDocument? {}
  let logging ← Document.fieldOr entries "logging" LoggingConfig.ofDocument? {}
  let heartbeat ← Document.fieldOr entries "heartbeat" HeartbeatConfig.listOfDocument? []
  return { shutdown, logging, heartbeat }

end Supervision

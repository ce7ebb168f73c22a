import Supervision.State
import Supervision.Cause

/-!
# Errors of the supervisor

`SupervisorError` holds what went wrong; the wording is `SupervisorError.message` alone. An error that wraps another
one can be taken up as the cause of a hook's failure (`SupervisorError.toCause`).
-/

namespace Supervision

/-- What is wrong with a configuration: a rule or a shape that it violates, a value of the wrong type, or a text that is
not TOML. -/
inductive ConfigFault where
  | invalid (message : String)
  | mistyped (message : String)
  | unreadable (message : String)
deriving DecidableEq, Repr

/-- The text of a configuration fault. -/
def ConfigFault.message : ConfigFault → String
  | invalid m | mistyped m | unreadable m => m

/-- Why an operation of the supervisor failed. -/
inductive SupervisorError where
  | config (fault : ConfigFault)
  | io (message : String)
  | serialization (message : String)
  /-- The component has no edge for the trigger in its present state. -/
  | undefinedTransition (component : String) (state : State) (trigger : Trigger)
  /-- A hook of the component failed. -/
  | hook (component : String) (phase : Phase) (cause : Cause)
  /-- Components of a batch failed; each is named with its own error, in the order in which they were asked. -/
  | batch (operation : Request) (failures : List (String × SupervisorError))
  | exitHook (message : String)
deriving Repr

namespace SupervisorError

/-- How many components of a batch failed; zero for any other error. -/
def failedCount : SupervisorError → Nat
  | batch _ failures => failures.length
  | _ => 0

/-- Whether a component was asked for something that its state has no edge for. -/
def isUndefinedTransition : SupervisorError → Bool
  | undefinedTransition .. => true
  | _ => false

/-- The text of an error. A batch gives only the number of its failures: each of them was logged when it happened. -/
def message : SupervisorError → String
  | config fault => s!"Configuration error: {fault.message}"
  | io m => s!"IO error: {m}"
  | serialization m => s!"Serialization error: {m}"
  | undefinedTransition component state trigger =>
    s!"Undefined transition: cannot {trigger.text} component '{component}' while {state.text}"
  | hook component phase cause => s!"Component '{component}' failed during {phase.text}: {cause.message}"
  | batch operation failures => s!"{failures.length} components failed to {operation.text}"
  | exitHook m => s!"Exit hook error: {m}"

/-- The text of the error that an error wraps, if it wraps one. -/
def source? : SupervisorError → Option String
  | config fault => some fault.message
  | io m | serialization m => some m
  | _ => none

/-- An error as the cause of another failure: its text, then what it wraps. -/
def toCause (e : SupervisorError) : Cause :=
  ⟨e.message, e.source?.toList⟩

end SupervisorError

/-- What an operation that may fail answers. -/
abbrev Reply (α : Type) := Except SupervisorError α

end Supervision

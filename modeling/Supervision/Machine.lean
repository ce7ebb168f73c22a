import Supervision.Lifecycle

/-!
# The state machine of a component

A component supplies `Hooks`; its `Machine` keeps the state and the failure record, and `Machine.request` drives one
request through to a settled state. The errors of hooks never leave the machine as they are: the machine records them,
goes to `failed`, and hands the failure to `Hooks.failed`, whose answer is the answer of the request.

The machine is not part of the world that its hooks act on: it is held beside that world (`Part.hold`) for as long as the
request lasts.
-/

namespace Supervision

variable {σ : Type}

/-- What a component does when its machine calls upon it. -/
structure Hooks (σ : Type) where
  name : String
  /-- Whether the component can recover from a failure. -/
  resettable : Bool := false
  start : Act σ (Except Cause Unit)
  stop : Act σ (Except Cause Unit)
  /-- Clears away what left the component failed. -/
  reset : Act σ (Except Cause Unit) := pure (.ok ())
  /-- Told of every failure, once. To answer without an error is to swallow the failure: the request then ends well and
  the component stays failed. -/
  failed : SupervisorError → Act σ (Reply Unit) := fun e => do
    Act.log (.failureReported e)
    return .error e

/-- The hook of a phase. -/
def Hooks.invoke (hooks : Hooks σ) : Phase → Act σ (Except Cause Unit)
  | .start => hooks.start
  | .stop => hooks.stop
  | .reset => hooks.reset

/-- The state of a component, and why it failed if that is not yet cleared. -/
structure Machine where
  state : State := .stopped
  failure : Option Cause := none
deriving DecidableEq, Repr, Inhabited

namespace Machine

/-- The machine in hand. -/
def current : Act (Machine × σ) Machine :=
  Part.fst.read

/-- Replaces the failure record. -/
def record (failure : Option Cause) : Act (Machine × σ) Unit :=
  Part.fst.modify fun m => { m with failure }

/-- Calls a hook; the machine is out of its reach. -/
def invoke (hooks : Hooks σ) (phase : Phase) : Act (Machine × σ) (Except Cause Unit) :=
  Part.snd.focus (hooks.invoke phase)

/-- The error of a trigger for which a state has no edge. -/
def undefined (hooks : Hooks σ) (state : State) (trigger : Trigger) : SupervisorError :=
  .undefinedTransition hooks.name state trigger

/-- Takes the edge of a trigger. -/
def step (hooks : Hooks σ) (trigger : Trigger) : Act (Machine × σ) (Reply Unit) := do
  let old := (← current).state
  match transition old trigger hooks.resettable with
  | none => return .error (undefined hooks old trigger)
  | some new =>
    Act.log (.stepped hooks.name old new trigger)
    Part.fst.modify fun m => { m with state := new }
    return .ok ()

/-- Hands the recorded failure, if there is one, to the component as a failure of this phase. -/
def report (hooks : Hooks σ) (phase : Phase) : Act (Machine × σ) (Reply Unit) := do
  match (← current).failure with
  | none => return .ok ()
  | some cause => Part.snd.focus (hooks.failed (.hook hooks.name phase cause))

/-- Settles a component whose hook of this phase has run: the failure record tells how that went. -/
def settle (hooks : Hooks σ) (phase : Phase) : Act (Machine × σ) (Reply Unit) := do
  if (← current).failure.isSome then
    Act.andThen (step hooks .failed) fun _ => report hooks phase
  else
    Act.andThen (step hooks .completed) fun _ => do
      Act.log (.settled hooks.name (← current).state)
      return .ok ()

/-- Carries out a request that the state has an edge for and before which nothing is left to reset. -/
def carryOut (hooks : Hooks σ) (request : Request) : Act (Machine × σ) (Reply Unit) :=
  Act.andThen (step hooks request.trigger) fun _ => do
    match ← invoke hooks request.phase with
    | .ok () => settle hooks request.phase
    | .error cause =>
      record (some cause)
      settle hooks request.phase

/-- Carries a request out. Where the state has no edge for it, nothing happens but the error. A failed component is reset
first; when its reset fails too, the new failure replaces the old one and the component stays failed. -/
def request (hooks : Hooks σ) (request : Request) : Act (Machine × σ) (Reply Unit) := do
  let machine ← current
  match transition machine.state request.trigger hooks.resettable with
  | none => return .error (undefined hooks machine.state request.trigger)
  | some _ =>
    if machine.state = .failed then
      Act.log (.resetting hooks.name request)
      match ← invoke hooks .reset with
      | .ok () =>
        record none
        carryOut hooks request
      | .error cause =>
        record (some cause)
        report hooks .reset
    else
      carryOut hooks request

/-- A state machine as a component: the machine is kept at a place of the world. -/
def component (seat : Part σ Machine) (hooks : Hooks σ) : Lifecycle σ where
  name := hooks.name
  request r := seat.hold (Machine.request hooks r)

end Machine

end Supervision

/-!
# States of a component and the edges between them

A supervised component is `stopped`, `started` or `failed`, or on its way (`starting`, `stopping`) while one of its hooks
runs. `transition` is the whole table of edges; everything the state machine does to a component goes through it.
-/

namespace Supervision

/-- Where a component is in its life. -/
inductive State where
  | stopped
  | starting
  | started
  | stopping
  | failed
deriving DecidableEq, Repr

/-- A component that was never started is stopped. -/
instance : Inhabited State := ⟨.stopped⟩

namespace State

/-- The word for a state in logs and errors. -/
def text : State → String
  | stopped => "stopped"
  | starting => "starting"
  | started => "started"
  | stopping => "stopping"
  | failed => "failed"

/-- The name of a state in the description of a component for debugging. -/
def label : State → String
  | stopped => "Stopped"
  | starting => "Starting"
  | started => "Started"
  | stopping => "Stopping"
  | failed => "Failed"

/-- A settled state: no hook of the component is under way. -/
def Settled : State → Prop
  | stopped | started | failed => True
  | starting | stopping => False

instance : DecidablePred Settled := fun s => by cases s <;> unfold Settled <;> infer_instance

end State

/-- What drives a component along an edge: a request of its owner, or the outcome of the hook that the request called. -/
inductive Trigger where
  | start
  | stop
  | completed
  | failed
deriving DecidableEq, Repr

/-- The word for a trigger in logs and errors, a verb like those of the requests. -/
def Trigger.text : Trigger → String
  | start => "start"
  | stop => "stop"
  | completed => "complete"
  | failed => "fail"

/-- The hook of a component that a step calls. -/
inductive Phase where
  | start
  | stop
  | reset
deriving DecidableEq, Repr

/-- The word for a phase in errors. -/
def Phase.text : Phase → String
  | start => "start"
  | stop => "stop"
  | reset => "reset"

/-- What an owner asks of a component, or of a batch of them. -/
inductive Request where
  | start
  | stop
deriving DecidableEq, Repr

namespace Request

/-- The word for a request in logs and errors. -/
def text : Request → String
  | start => "start"
  | stop => "stop"

/-- The trigger that a request pulls. -/
def trigger : Request → Trigger
  | start => .start
  | stop => .stop

/-- The hook that carries a request out. -/
def phase : Request → Phase
  | start => .start
  | stop => .stop

/-- The state in which a request that went well leaves a component. -/
def goal : Request → State
  | start => .started
  | stop => .stopped

end Request

/-- The next state, or nothing where the table has no edge. Only a resettable component leaves `failed`, and its reset
hook has run before it does. -/
def transition (state : State) (trigger : Trigger) (resettable : Bool) : Option State :=
  match state, trigger with
  | .stopped, .start => some .starting
  | .started, .stop => some .stopping
  | .failed, .start => if resettable then some .starting else none
  | .failed, .stop => if resettable then some .stopping else none
  | .starting, .completed => some .started
  | .stopping, .completed => some .stopped
  | .starting, .failed => some .failed
  | .stopping, .failed => some .failed
  | _, _ => none

/-- Follows a list of triggers from a state: after each one the state reached, or nothing where there is no edge, in
which case the state stays. -/
def State.path (state : State) (resettable : Bool) : List Trigger → List (Option State)
  | [] => []
  | trigger :: rest =>
    let next := transition state trigger resettable
    next :: (next.getD state).path resettable rest

end Supervision

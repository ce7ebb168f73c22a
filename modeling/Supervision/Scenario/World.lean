import Supervision.Heartbeat
import Supervision.HookLedger
import Supervision.Scenario.Script

/-!
# The world of a scenario

A scenario has a cast of components, one coordinator and a ledger for its exit hook. The `Role` of a component says what
it is and never changes; what does change is in the `World`, at a place for each component.
-/

namespace Supervision.Scenario

/-- How a scripted component takes its failures. -/
inductive FailurePolicy where
  /-- Logs a failure and answers with it. -/
  | log
  /-- Notes a failure and answers with it. -/
  | answer
  /-- Notes a failure and swallows it. -/
  | swallow
  /-- Notes a failure and answers with another error. -/
  | replace (error : SupervisorError)

/-- A component with a state machine whose hooks follow a script. -/
structure Actor where
  name : String
  /-- The name under which its calls are noted. -/
  label : String
  resettable : Bool
  /-- Whether its reset follows the script; otherwise it always succeeds, and is not noted. -/
  resets : Bool
  policy : FailurePolicy

/-- What a component is. -/
inductive Role where
  | actor (actor : Actor)
  /-- A component without a state machine, scripted all the same. -/
  | bare (name label : String)
  | manager
  | heartbeat (heartbeat : Heartbeat)

/-- The name of a component in a role. -/
def Role.name : Role → String
  | actor a => a.name
  | bare name _ => name
  | manager => Manager.name
  | heartbeat h => h.name

/-- What changes about a component. The parts that its role has no use for stay as they are. -/
structure Figure where
  machine : Machine := {}
  /-- Whether a request is under way on the machine, which then waits for no other one. -/
  busy : Bool := false
  scripts : Scripts := {}
  registry : Registry Nat := .empty
  pulse : Pulse := {}

instance : Inhabited Figure := ⟨{}⟩

/-- Everything that changes while a scenario plays. -/
structure World where
  figures : Array Figure
  registration : Registration Nat := {}
  ledger : HookLedger := {}
  threads : ThreadHost := {}
  notes : List Note := []

namespace World

/-- The place of a component; outside the cast there is a place that keeps nothing. -/
def figure (i : Nat) : Part World Figure where
  get world := world.figures.getD i {}
  set figure world := { world with figures := world.figures.setIfInBounds i figure }

/-- The place of the state machine of a component. -/
def machine (i : Nat) : Part World Machine :=
  (figure i).comp ⟨Figure.machine, fun machine f => { f with machine }⟩

/-- The place of the scripts of a component. -/
def scripts (i : Nat) : Part World Scripts :=
  (figure i).comp ⟨Figure.scripts, fun scripts f => { f with scripts }⟩

/-- The place of the registrations of a manager. -/
def registry (i : Nat) : Part World (Registry Nat) :=
  (figure i).comp ⟨Figure.registry, fun registry f => { f with registry }⟩

/-- The place of the pulse of a heartbeat. -/
def pulse (i : Nat) : Part World Pulse :=
  (figure i).comp ⟨Figure.pulse, fun pulse f => { f with pulse }⟩

/-- The place of what the coordinator keeps. -/
def registrationPart : Part World (Registration Nat) :=
  ⟨World.registration, fun registration w => { w with registration }⟩

/-- The place of the ledger of the exit hook. -/
def ledgerPart : Part World HookLedger :=
  ⟨World.ledger, fun ledger w => { w with ledger }⟩

/-- The place of the threads. -/
def threadsPart : Part World ThreadHost :=
  ⟨World.threads, fun threads w => { w with threads }⟩

/-- Notes something. -/
def note (note : Note) : Act World Unit :=
  Act.modifyWorld fun w => { w with notes := w.notes ++ [note] }

/-- Marks a component as busy or not. -/
def markBusy (i : Nat) (busy : Bool) : Act World Unit :=
  (figure i).modify fun f => { f with busy }

/-- Fails to return when the machine of a component is busy: whoever asks waits for itself. -/
def awaitIdle (i : Nat) : Act World Unit := do
  if ((← (figure i).read).busy) then throw .deadlock

/-- Runs a computation during which the machine of a component is busy, however it ends. -/
def whileBusy {α : Type} (i : Nat) (x : Act World α) : Act World α := do
  awaitIdle i
  markBusy i true
  tryCatch (do
      let a ← x
      markBusy i false
      return a)
    fun interruption => do
      markBusy i false
      throw interruption

end World

end Supervision.Scenario

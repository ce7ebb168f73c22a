import Supervision.Lifecycle
import Supervision.Registry

/-!
# Batches and managers

A `Manager` starts and stops a set of components as one unit: in registration order, and in the exact reverse. A failing
component never keeps the rest of a batch from being asked; the batch answers with one error that holds every failure. A
batch runs over the components registered when it begins, so that registrations which its components make while it runs
concern the next batch.
-/

namespace Supervision

variable {σ κ : Type}

namespace Batch

/-- The order in which a request goes through components that were registered in this order. -/
def order {α : Type} : Request → List α → List α
  | .start, members => members
  | .stop, members => members.reverse

/-- What a batch has come to so far: how many components it has asked, and which of them failed. -/
structure Outcome where
  operation : Request
  attempted : Nat := 0
  failures : List (String × SupervisorError) := []

namespace Outcome

/-- Counts a component that has answered, and keeps its failure if it has failed. -/
def record (outcome : Outcome) (component : Lifecycle σ) (reply : Reply Unit) : Act σ Outcome := do
  let counted := { outcome with attempted := outcome.attempted + 1 }
  match reply with
  | .ok () => return counted
  | .error e =>
    Act.log (.batchFailure outcome.operation component.name e)
    return { counted with failures := counted.failures ++ [(component.name, e)] }

/-- Asks components one after the other, whatever each of them answers. -/
def collect (outcome : Outcome) : List (Lifecycle σ) → Act σ Outcome
  | [] => return outcome
  | component :: rest => do
    let recorded ← outcome.record component (← component.request outcome.operation)
    recorded.collect rest

/-- Closes a batch that has come to this. -/
def finish (outcome : Outcome) : Act σ (Reply Unit) := do
  match outcome.failures with
  | [] =>
    Act.log (.batchSucceeded outcome.operation outcome.attempted)
    return .ok ()
  | failures =>
    let e := SupervisorError.batch outcome.operation failures
    Act.log (.batchFailed e outcome.attempted)
    return .error e

end Outcome

/-- Asks every one of the components, given in registration order. -/
def run (operation : Request) (members : List (Lifecycle σ)) : Act σ (Reply Unit) := do
  Act.log (.batchStarted operation members.length)
  let outcome ← Outcome.collect { operation } (order operation members)
  outcome.finish

end Batch

/-- A manager: the place of its registrations, and the component that each identity stands for. -/
structure Manager (σ κ : Type) where
  seat : Part σ (Registry κ)
  component : κ → Lifecycle σ

/-- Something that owns a component without being one, and hands it out. -/
structure Owner (σ κ : Type) where
  component : Act σ κ

namespace Manager

/-- The identities registered, in start order. -/
def members (manager : Manager σ κ) : Act σ (List κ) :=
  return (← manager.seat.read).members

/-- How many components are registered. -/
def size (manager : Manager σ κ) : Act σ Nat :=
  return (← manager.seat.read).size

/-- Whether no component is registered. -/
def isEmpty (manager : Manager σ κ) : Act σ Bool :=
  return (← manager.seat.read).isEmpty

/-- Drops every registration and stops nothing. -/
def clear (manager : Manager σ κ) : Act σ Unit := do
  Act.log (.cleared (← manager.size))
  manager.seat.modify fun _ => .empty

/-- Carries a request out on every component registered now. -/
def request (manager : Manager σ κ) (operation : Request) : Act σ (Reply Unit) := do
  Batch.run operation ((← manager.members).map manager.component)

/-- Carries a request out and logs the aggregate error in place of handing it on. Answers whether all went well. -/
def quietly (manager : Manager σ κ) (operation : Request) : Act σ Bool := do
  match ← manager.request operation with
  | .ok () => return true
  | .error e =>
    Act.log (.batchIgnored operation e)
    return false

/-- The name of a manager among the components of another one. -/
def name : String :=
  "lifecycle-manager"

/-- A manager as a component. -/
def toLifecycle (manager : Manager σ κ) : Lifecycle σ where
  name := name
  request := manager.request

variable [DecidableEq κ]

/-- Whether a component is registered. -/
def contains (manager : Manager σ κ) (k : κ) : Act σ Bool :=
  return (← manager.seat.read).contains k

/-- Registers a component. Answers whether it was new. -/
def add (manager : Manager σ κ) (k : κ) : Act σ Bool := do
  if ← manager.contains k then
    Act.log (.alreadyRegistered (manager.component k).name)
    return false
  else
    Act.log (.registered (manager.component k).name)
    manager.seat.modify (·.insert k)
    return true

/-- Takes a component out without stopping it. Answers whether it was registered. -/
def remove (manager : Manager σ κ) (k : κ) : Act σ Bool := do
  if ← manager.contains k then
    manager.seat.modify (·.erase k)
    Act.log (.unregistered (manager.component k).name)
    return true
  else
    return false

/-- Registers the component that its owner hands out. Answers whether it was new. -/
def addOwned (manager : Manager σ κ) (owner : Owner σ κ) : Act σ Bool := do
  manager.add (← owner.component)

/-- Unregisters the component that its owner hands out, without stopping it. Answers whether it was registered. -/
def removeOwned (manager : Manager σ κ) (owner : Owner σ κ) : Act σ Bool := do
  manager.remove (← owner.component)

end Manager

end Supervision

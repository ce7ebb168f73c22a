import Supervision.Manager

/-!
# Shutdown on exit

A `Coordinator` stops its registered components when the process ends. It keeps an exit hook installed while at least one
component is registered, and only then. A hook fires once: firing marks it as not installed, and the next registration
operation installs it again for whatever is registered then.

Registrations stand, whatever the hook answers: a refused installation or removal is the error of the operation, and the
next operation tries it again.
-/

namespace Supervision

variable {σ κ : Type}

/-- The registration of one exit action with the process. -/
structure ExitHook (σ : Type) where
  install : Act σ (Reply Unit)
  uninstall : Act σ (Reply Unit)

/-- What a coordinator keeps: its registrations, their count, and whether it takes the hook to be installed. -/
structure Registration (κ : Type) where
  registry : Registry κ := .empty
  count : Nat := 0
  installed : Bool := false

/-- The registrations within what a coordinator keeps. -/
def Registration.registryPart : Part (Registration κ) (Registry κ) :=
  ⟨Registration.registry, fun registry r => { r with registry }⟩

/-- A coordinator: the place of what it keeps, its exit hook, and the component that each identity stands for. -/
structure Coordinator (σ κ : Type) where
  seat : Part σ (Registration κ)
  hook : ExitHook σ
  component : κ → Lifecycle σ

namespace Coordinator

/-- The manager of the registered components. -/
def manager (c : Coordinator σ κ) : Manager σ κ where
  seat := c.seat.comp Registration.registryPart
  component := c.component

/-- How many components are registered. -/
def registered (c : Coordinator σ κ) : Act σ Nat :=
  return (← c.seat.read).count

/-- Whether the hook is installed. -/
def isHookInstalled (c : Coordinator σ κ) : Act σ Bool :=
  return (← c.seat.read).installed

/-- Changes the count of registrations. -/
def recount (c : Coordinator σ κ) (f : Nat → Nat) : Act σ Unit :=
  c.seat.modify fun r => { r with count := f r.count }

/-- Marks the hook as installed or not. -/
def mark (c : Coordinator σ κ) (installed : Bool) : Act σ Unit :=
  c.seat.modify fun r => { r with installed }

/-- Brings the hook in line with the count of registrations. -/
def sync (c : Coordinator σ κ) : Act σ (Reply Unit) := do
  let r ← c.seat.read
  if r.count > 0 ∧ r.installed = false then
    Act.andThen c.hook.install fun _ => do
      c.mark true
      Act.log (.exitHookInstalled r.count)
      return .ok ()
  else if r.count = 0 ∧ r.installed = true then
    Act.andThen c.hook.uninstall fun _ => do
      c.mark false
      Act.log .exitHookRemoved
      return .ok ()
  else
    Act.log (.exitHookUnchanged r.count r.installed)
    return .ok ()

/-- Drops every registration, and the hook with them; stops nothing. -/
def clear (c : Coordinator σ κ) : Act σ (Reply Unit) := do
  c.manager.clear
  c.recount fun _ => 0
  c.sync

/-- Stops everything registered now, and logs a failure in place of handing it on. -/
def runExitAction (c : Coordinator σ κ) : Act σ Unit := do
  Act.log (.stoppingOnExit (← c.manager.size))
  match ← c.manager.request .stop with
  | .ok () => return ()
  | .error e => Act.log (.shutdownIncomplete e)

/-- What the hook runs when it fires. -/
def exitAction (c : Coordinator σ κ) : Act σ Unit := do
  c.mark false
  c.runExitAction

variable [DecidableEq κ]

/-- Registers a component. Answers whether it was new. -/
def add (c : Coordinator σ κ) (k : κ) : Act σ (Reply Bool) := do
  let added ← c.manager.add k
  if added then
    c.recount (· + 1)
  Act.andThen c.sync fun _ => return .ok added

/-- Takes a component out without stopping it. Answers whether it was registered. -/
def remove (c : Coordinator σ κ) (k : κ) : Act σ (Reply Bool) := do
  let removed ← c.manager.remove k
  if removed then
    c.recount (· - 1)
  Act.andThen c.sync fun _ => return .ok removed

/-- Does the same to each of several identities. Answers how often it had an effect. -/
def tally (step : κ → Act σ Bool) : List κ → Act σ Nat
  | [] => return 0
  | k :: ks => do
    let done ← step k
    let rest ← tally step ks
    return if done then rest + 1 else rest

/-- Registers several components, and only then brings the hook in line. Answers how many were new. -/
def addAll (c : Coordinator σ κ) (ks : List κ) : Act σ (Reply Nat) := do
  let added ← tally c.manager.add ks
  c.recount (· + added)
  Act.andThen c.sync fun _ => return .ok added

/-- Takes several components out, and only then brings the hook in line. Answers how many were registered. -/
def removeAll (c : Coordinator σ κ) (ks : List κ) : Act σ (Reply Nat) := do
  let removed ← tally c.manager.remove ks
  c.recount (· - removed)
  Act.andThen c.sync fun _ => return .ok removed

end Coordinator

end Supervision

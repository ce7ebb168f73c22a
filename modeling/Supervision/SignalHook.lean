import Supervision.Config
import Supervision.Coordinator

/-!
# Exit hooks bound to signals

A `SignalHook` is the exit hook of a process that is asked to end by a signal. To arm it is to put an action in its place;
the first installation also registers a listener with the operating system, which stays for the life of the hook, armed or
not. The `SignalListener` is the other side: a signal takes the action out of its place before it runs it, so that an
action runs at most once. A signal that finds no action ends the process with the status that the signal alone would have
given it.

An action that panics takes its listener with it. The operating system goes on delivering signals, but nobody is left to
act on them (`SignalListener.receive`).
-/

namespace Supervision

variable {σ α : Type}

/-- Whether somebody waits for signals on behalf of a hook. -/
inductive Listening where
  /-- No listener was ever registered; a signal takes its own course. -/
  | absent
  | active
  /-- The listener is gone, and signals come to nothing. -/
  | ended
deriving DecidableEq, Repr

/-- What changes about a signal hook: its action, if it is armed, and its listener. -/
structure Arming (α : Type) where
  action : Option α := none
  listening : Listening := .absent
deriving DecidableEq, Repr

/-- A signal hook as its owner sees it. -/
structure SignalHook (σ α : Type) where
  seat : Part σ (Arming α)
  /-- Has the operating system deliver signals to a new listener. -/
  register : Act σ (Reply Unit)

namespace SignalHook

/-- Whether a signal would find an action. -/
def isArmed (hook : SignalHook σ α) : Act σ Bool :=
  return (← hook.seat.read).action.isSome

/-- Registers a listener, unless one was registered before. -/
def ensureListener (hook : SignalHook σ α) : Act σ (Reply Unit) := do
  if (← hook.seat.read).listening = .absent then
    Act.andThen hook.register fun _ => do
      Act.log .listenerRegistered
      hook.seat.modify fun arming => { arming with listening := .active }
      return .ok ()
  else
    return .ok ()

/-- Arms the hook with an action, in the place of any other one. Without a listener the hook stays as it is. -/
def install (hook : SignalHook σ α) (action : α) : Act σ (Reply Unit) := do
  match ← hook.ensureListener with
  | .ok () =>
    hook.seat.modify fun arming => { arming with action := some action }
    return .ok ()
  | .error e =>
    Act.log (.listenerRefused e)
    return .error e

/-- Disarms the hook; its listener stays. -/
def uninstall (hook : SignalHook σ α) : Act σ (Reply Unit) := do
  hook.seat.modify fun arming => { arming with action := none }
  return .ok ()

/-- Gives the hook up, and the listener with it. -/
def drop (hook : SignalHook σ α) : Act σ Unit :=
  hook.seat.modify fun arming =>
    ⟨none, if arming.listening = .absent then .absent else .ended⟩

/-- The hook as the exit hook of an owner that has one action. -/
def exitHook (hook : SignalHook σ α) (action : α) : ExitHook σ where
  install := hook.install action
  uninstall := hook.uninstall

end SignalHook

/-- The listener of a signal hook: how the process is to end, how an action runs, and what ends the process. -/
structure SignalListener (σ α : Type) where
  hook : SignalHook σ α
  shutdown : ShutdownConfig
  run : α → Act σ Unit
  /-- Ends the process with a code, or hands the code to whoever does. -/
  exitProcess : Int32 → Act σ Unit

namespace SignalListener

/-- Acts on a signal. Whatever the configuration says, the process ends if no action is armed. -/
def handle (listener : SignalListener σ α) (signal : TerminationSignal) : Act σ Unit := do
  let arming ← listener.hook.seat.read
  listener.hook.seat.modify fun arming => { arming with action := none }
  match arming.action with
  | some action =>
    Act.log (.signalHandled signal)
    listener.run action
    if listener.shutdown.exitProcess then
      Act.log (.exitAfterHook listener.shutdown.exitCode)
      listener.exitProcess listener.shutdown.exitCode
    else
      Act.log .keepsRunning
  | none =>
    Act.log (.signalUnhandled signal signal.defaultExitCode)
    listener.exitProcess signal.defaultExitCode

/-- A signal reaches an active listener only. A panic ends the listener, and is nobody's but its own. -/
def receive (listener : SignalListener σ α) (signal : TerminationSignal) : Act σ Unit := do
  if (← listener.hook.seat.read).listening = .active then
    match ← Act.catchPanic (listener.handle signal) with
    | .ok () => return ()
    | .error _ => listener.hook.seat.modify fun arming => { arming with listening := .ended }

end SignalListener

/-- What is seen of an exit code from outside the process: its low eight bits. -/
def exitStatus (code : Int32) : UInt8 :=
  code.toUInt32.toUInt8

end Supervision

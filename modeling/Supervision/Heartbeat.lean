import Supervision.Machine

/-!
# Heartbeats

A heartbeat is a component whose worker thread beats at a fixed interval. Its hooks spawn the worker, and signal and join
it; a failed one recovers, since its reset ends whatever worker is left. `ThreadHost` is the side of the operating system:
it says how each spawn and each join will end, and remembers what was spawned, signalled and joined.
-/

namespace Supervision

variable {σ : Type}

/-- What the operating system does with threads. -/
structure Threads (σ : Type) where
  /-- Spawns a thread of this name. -/
  spawn : String → Act σ (Except Cause Unit)
  /-- Signals a thread to end. Nothing comes of it if the thread has ended already. -/
  signal : String → Act σ Unit
  /-- Waits for a thread to end. Answers whether it returned, and did not panic. -/
  join : String → Act σ Bool

/-- What was done to a thread. -/
inductive ThreadDeed where
  | spawned (name : String)
  | signalled (name : String)
  | joined (name : String)
deriving DecidableEq, Repr

/-- Threads on paper: the outcomes to come, and the deeds so far. Where no outcome is given, all goes well. -/
structure ThreadHost where
  /-- For each of the next spawns the text of its error, or nothing. -/
  spawnOutcomes : List (Option String) := []
  /-- For each of the next joins whether the thread returned. -/
  joinOutcomes : List Bool := []
  /-- The deeds so far, oldest first. -/
  deeds : List ThreadDeed := []
deriving DecidableEq, Repr, Inhabited

namespace ThreadHost

/-- The bytes of a thread name as a list between brackets. -/
def bytesText (name : String) : String :=
  "[" ++ ", ".intercalate (name.toUTF8.data.toList.map fun b => toString b.toNat) ++ "]"

/-- How many bytes of a text stand before its first NUL, if it holds one. -/
def nulPosition? (name : String) : Option Nat :=
  name.toUTF8.data.toList.findIdx? (· = 0)

/-- Spawns a thread. A name with a NUL is no name of a thread: to ask for it is a mistake that panics. -/
def spawn (seat : Part σ ThreadHost) (name : String) : Act σ (Except Cause Unit) := do
  match nulPosition? name with
  | some position =>
    throw (.panic
      s!"thread name may not contain interior null bytes: NulError({position}, {bytesText name})")
  | none =>
    let host ← seat.read
    seat.modify fun h => { h with spawnOutcomes := h.spawnOutcomes.tail }
    match host.spawnOutcomes.head?.join with
    | some message => return .error ⟨message, []⟩
    | none =>
      seat.modify fun h => { h with deeds := h.deeds ++ [.spawned name] }
      return .ok ()

/-- Signals a thread. -/
def signal (seat : Part σ ThreadHost) (name : String) : Act σ Unit :=
  seat.modify fun h => { h with deeds := h.deeds ++ [.signalled name] }

/-- Joins a thread. -/
def join (seat : Part σ ThreadHost) (name : String) : Act σ Bool := do
  let host ← seat.read
  seat.modify fun h => { h with joinOutcomes := h.joinOutcomes.tail, deeds := h.deeds ++ [.joined name] }
  return host.joinOutcomes.head?.getD true

/-- The threads on paper at a place of the world. -/
def threads (seat : Part σ ThreadHost) : Threads σ where
  spawn := spawn seat
  signal := signal seat
  join := join seat

end ThreadHost

/-- A heartbeat: its name, and its interval in milliseconds. -/
structure Heartbeat where
  name : String
  interval : UInt64
deriving DecidableEq, Repr, Inhabited

/-- What a heartbeat does at a time: whether it has a worker, and how often it has beaten. -/
structure Pulse where
  running : Bool := false
  beats : Nat := 0
deriving DecidableEq, Repr, Inhabited

namespace Heartbeat

/-- The name of the worker thread. -/
def threadName (heartbeat : Heartbeat) : String :=
  s!"heartbeat-{heartbeat.name}"

/-- Spawns the worker. There is never a second one. -/
def start (heartbeat : Heartbeat) (seat : Part σ Pulse) (threads : Threads σ) : Act σ (Except Cause Unit) := do
  if (← seat.read).running then
    return .error ⟨s!"heartbeat '{heartbeat.name}' worker already running", []⟩
  else
    match ← threads.spawn heartbeat.threadName with
    | .ok () =>
      seat.modify fun pulse => { pulse with running := true }
      return .ok ()
    | .error cause => return .error cause

/-- Signals the worker, if there is one, and waits for its end. -/
def joinWorker (heartbeat : Heartbeat) (seat : Part σ Pulse) (threads : Threads σ) : Act σ (Except Cause Unit) := do
  if (← seat.read).running then
    seat.modify fun pulse => { pulse with running := false }
    threads.signal heartbeat.threadName
    if ← threads.join heartbeat.threadName then
      Act.log (.workerExiting heartbeat.name)
      return .ok ()
    else
      return .error ⟨s!"heartbeat '{heartbeat.name}' worker panicked", []⟩
  else
    return .ok ()

/-- The hooks of a heartbeat whose pulse is kept at a place of the world. -/
def hooks (heartbeat : Heartbeat) (seat : Part σ Pulse) (threads : Threads σ) : Hooks σ where
  name := heartbeat.name
  resettable := true
  start := heartbeat.start seat threads
  stop := heartbeat.joinWorker seat threads
  reset := heartbeat.joinWorker seat threads

end Heartbeat

end Supervision

import Supervision.Machine
import Supervision.Scenario.Script
import Supervision.SignalHook

/-!
# Drills

A drill is a process with several signal hooks that is sent signals. Some hooks stand alone and note their actions; others
belong to a coordinator and stop its components. One coordinator may be shared by the whole process; it goes by the default
configuration. Where exit codes are only recorded, the process goes on after them, as a coordinator that hands its status
over does; the shared coordinator knows no such restraint.

`Drill.play` shows each step, and how the process ended. A signal before any listener was registered kills it.
-/

namespace Supervision

open Scenario (Value)

namespace Drill

/-- Who owns a hook. -/
inductive Owner where
  | nobody
  | coordinator
  /-- The coordinator that is shared by the whole process. -/
  | shared
deriving DecidableEq, Repr

/-- A hook of a drill. -/
structure Post where
  owner : Owner := .nobody
  shutdown : ShutdownConfig := {}

/-- A component that the coordinator at a hook was told of: its name, and the text with which it fails to stop, if it
does. -/
structure Member where
  post : Nat
  name : String
  stopFault : Option String
deriving DecidableEq, Repr

/-- What a hook does when its signal comes. -/
inductive Action where
  | note (label : String)
  | stopAll

/-- What changes about a hook and its owner. -/
structure Station where
  arming : Arming Action := {}
  registration : Registration Member := {}
  /-- The calls of the present step. -/
  calls : List String := []
  /-- The exit code recorded in the present step. -/
  code : Option Int32 := none

instance : Inhabited Station := ⟨{}⟩

/-- Everything that changes in a drill. -/
structure World where
  station : Nat → Station := fun _ => {}
  machine : Member → Machine := fun _ => {}
  /-- The components mentioned so far. -/
  crew : List Member := []
  /-- Whether the process has taken the signals into its own hands. -/
  guarded : Bool := false

/-- A component as a command names it. How it stops is settled when it is first mentioned. -/
structure Mention where
  name : String
  stopFault : Option String := none

/-- What a hook or its owner can be told. -/
inductive Command where
  | install (label : String)
  | uninstall
  | drop
  | isArmed
  | request (mention : Mention) (request : Request)
  | state (mention : Mention)
  | add (mention : Mention)
  | remove (mention : Mention)
  | clear
  | registered
  | isHookInstalled

/-- A step of a drill. -/
inductive Step where
  | command (post : Nat) (command : Command)
  | raise (signal : TerminationSignal)

namespace World

/-- The place of what changes about a hook. -/
def stationPart (post : Nat) : Part World Station where
  get w := w.station post
  set s w := { w with station := fun p => if p = post then s else w.station p }

/-- The place of the arming of a hook. -/
def armingPart (post : Nat) : Part World (Arming Action) :=
  (stationPart post).comp ⟨Station.arming, fun arming s => { s with arming }⟩

/-- The place of what the coordinator at a hook keeps. -/
def registrationPart (post : Nat) : Part World (Registration Member) :=
  (stationPart post).comp ⟨Station.registration, fun registration s => { s with registration }⟩

/-- The place of the state machine of a component. -/
def machinePart (member : Member) : Part World Machine where
  get w := w.machine member
  set m w := { w with machine := fun k => if k = member then m else w.machine k }

/-- Notes a call at a hook. -/
def call (post : Nat) (text : String) : Act World Unit :=
  (stationPart post).modify fun s => { s with calls := s.calls ++ [text] }

/-- The component that a mention means; it joins the crew if it is new there. -/
def find (post : Nat) (mention : Mention) : Act World Member := do
  match (← Act.world).crew.find? fun member => member.post = post ∧ member.name = mention.name with
  | some member => return member
  | none =>
    let member := ⟨post, mention.name, mention.stopFault⟩
    Act.modifyWorld fun w => { w with crew := w.crew ++ [member] }
    return member

/-- The world at the beginning of a step. -/
def fresh (world : World) : World :=
  { world with station := fun post => { world.station post with calls := [], code := none } }

end World

/-- The hooks of a component: it notes its calls at the hook of its coordinator. -/
def Member.hooks (member : Member) : Hooks World where
  name := member.name
  start := do
    World.call member.post s!"start:{member.name}"
    return .ok ()
  stop := do
    World.call member.post s!"stop:{member.name}"
    match member.stopFault with
    | none => return .ok ()
    | some text => return .error ⟨text, []⟩

/-- A component of the crew. -/
def Member.component (member : Member) : Lifecycle World :=
  Machine.component (World.machinePart member) member.hooks

end Drill

open Drill in
/-- A drill: its hooks, and whether exit codes are only recorded. -/
structure Drill where
  posts : List Post
  records : Bool

namespace Drill

/-- A hook by its number. -/
def post (drill : Drill) (i : Nat) : Post :=
  drill.posts.getD i {}

/-- The number under which a hook is kept: all hooks of the shared coordinator are one. -/
def seat (drill : Drill) (i : Nat) : Nat :=
  if (drill.post i).owner = .shared then drill.posts.findIdx (·.owner = .shared) else i

/-- A hook as its owner sees it. -/
def hook (drill : Drill) (i : Nat) : SignalHook World Action where
  seat := World.armingPart (drill.seat i)
  register := do
    Act.modifyWorld fun w => { w with guarded := true }
    return .ok ()

/-- The coordinator at a hook. -/
def coordinator (drill : Drill) (i : Nat) : Coordinator World Member where
  seat := World.registrationPart (drill.seat i)
  hook := (drill.hook i).exitHook .stopAll
  component := Member.component

/-- The listener of a hook. -/
def listener (drill : Drill) (i : Nat) : SignalListener World Action where
  hook := drill.hook i
  shutdown := if (drill.post i).owner = .shared then {} else (drill.post i).shutdown
  run
    | .note label => World.call i s!"action:{label}"
    | .stopAll => (drill.coordinator i).exitAction
  exitProcess code :=
    if drill.records ∧ (drill.post i).owner ≠ .shared then
      (World.stationPart i).modify fun s => { s with code := some code }
    else
      throw (.exit code)

/-- Whether a hook is armed; of the shared coordinator it is known whether it takes its hook to be installed. -/
def isArmed (drill : Drill) (i : Nat) : Act World Bool :=
  if (drill.post i).owner = .shared then (drill.coordinator i).isHookInstalled else (drill.hook i).isArmed

/-- An answer as a value. -/
def answering {β : Type} (x : Act World (Reply β)) (value : β → Value) : Act World (Reply Value) :=
  Act.andThen x fun b => return .ok (value b)

/-- Carries a command out. -/
def obey (drill : Drill) (i : Nat) : Command → Act World (Reply Value)
  | .install label => answering ((drill.hook i).install (.note label)) fun _ => .unit
  | .uninstall => answering (drill.hook i).uninstall fun _ => .unit
  | .drop => do
    (drill.hook i).drop
    return .ok .unit
  | .isArmed => return .ok (.flag (← drill.isArmed i))
  | .request mention request => do
    answering ((← World.find i mention).component.request request) fun _ => .unit
  | .state mention => do
    return .ok (.state (← (World.machinePart (← World.find i mention)).read).state)
  | .add mention => do answering ((drill.coordinator i).add (← World.find i mention)) .flag
  | .remove mention => do answering ((drill.coordinator i).remove (← World.find i mention)) .flag
  | .clear => answering (drill.coordinator i).clear fun _ => .unit
  | .registered => return .ok (.count (← (drill.coordinator i).registered))
  | .isHookInstalled => return .ok (.flag (← (drill.coordinator i).isHookInstalled))

/-- Delivers a signal to one hook after the other. -/
def deliver (drill : Drill) (signal : TerminationSignal) : List Nat → Act World Unit
  | [] => return ()
  | i :: rest => do
    (drill.listener i).receive signal
    drill.deliver signal rest

/-- The numbers of the hooks that have a listener of their own. -/
def listeners (drill : Drill) : List Nat :=
  (List.range drill.posts.length).filter fun i => drill.seat i = i

/-- What a signal made of one hook: the calls of its action, the code that it recorded, and whether it is armed after. -/
structure Report where
  calls : List String
  code : Option Int32
  armed : Bool

/-- Tells what became of a hook in the present step. -/
def report (drill : Drill) (i : Nat) : Act World Report := do
  let station ← (World.stationPart i).read
  return ⟨station.calls, station.code, ← drill.isArmed i⟩

/-- What is seen of one step. -/
inductive Frame where
  | answered (answer : Reply Value) (report : Report)
  | raised (reports : List Report)

/-- How a process ended. -/
inductive Ending where
  /-- All steps are done. -/
  | completed
  /-- A step was cut short, after these calls. -/
  | interrupted (interruption : Interruption) (calls : List String)
  /-- A signal that nobody had asked for killed it. -/
  | killed (signal : TerminationSignal)

/-- Carries one step out. -/
def perform (drill : Drill) : Step → Act World Frame
  | .command i command => do
    let answer ← drill.obey i command
    return .answered answer (← drill.report i)
  | .raise signal => do
    drill.deliver signal drill.listeners
    return .raised (← (List.range drill.posts.length).mapM drill.report)

/-- Whether a step is a signal that kills the process. -/
def kills? (world : World) : Step → Option TerminationSignal
  | .raise signal => if world.guarded then none else some signal
  | .command .. => none

/-- All calls of a step, hook by hook. -/
def calls (drill : Drill) (world : World) : List String :=
  (List.range drill.posts.length).flatMap fun i => (world.station i).calls

/-- Plays steps up to the end of the process. -/
def playFrom (drill : Drill) : List Step → World → List Frame × Ending
  | [], _ => ([], .completed)
  | step :: rest, world =>
    match kills? world step with
    | some signal => ([], .killed signal)
    | none =>
      match Act.runOn (drill.perform step) world.fresh with
      | (.ok frame, after, _) =>
        let (frames, ending) := drill.playFrom rest after
        (frame :: frames, ending)
      | (.error interruption, after, _) => ([], .interrupted interruption (drill.calls after))

/-- Plays a drill. -/
def play (drill : Drill) (steps : List Step) : List Frame × Ending :=
  drill.playFrom steps {}

end Drill

end Supervision

import Supervision.Scenario.World
import Supervision.Text.Quoted

/-!
# Playing a scenario

`Scene.perform` carries one command out. A hook may give commands in turn, so the commands nest; the first argument of
`perform` bounds how deep. `Scene.depth` is a bound that no finite nesting reaches: below the hooks that are under way,
each of which has taken an outcome of its own, there are only chains of managers. What does reach it is a manager that is
among its own components, and has no end.
-/

namespace Supervision

namespace Scenario

/-- The cast of a scenario. -/
structure Scene where
  cast : Array Role

namespace Scene

/-- The name of a component. -/
def nameOf (scene : Scene) (i : Nat) : String :=
  (scene.cast[i]?.map Role.name).getD ""

/-- A way to carry commands out. -/
abbrev Performer := Command → Act World (Reply Value)

/-- A component as the others see it: a request to it is a command. -/
def peer (scene : Scene) (run : Performer) (i : Nat) : Lifecycle World where
  name := scene.nameOf i
  request r := Act.andThen (run (.request i r)) fun _ => return .ok ()

/-- A manager of the cast. -/
def manager (scene : Scene) (run : Performer) (i : Nat) : Manager World Nat where
  seat := World.registry i
  component := scene.peer run

/-- The exit hook of a scenario, which notes what is asked of it. -/
def exitHook : ExitHook World where
  install := do
    World.note (.call "install")
    (HookLedger.exitHook World.ledgerPart).install
  uninstall := do
    World.note (.call "uninstall")
    (HookLedger.exitHook World.ledgerPart).uninstall

/-- The coordinator of a scenario. -/
def coordinator (scene : Scene) (run : Performer) : Coordinator World Nat where
  seat := World.registrationPart
  hook := exitHook
  component := scene.peer run

/-- Gives commands one after the other and notes their answers. -/
def giveAll (run : Performer) : List (String × Command) → Act World Unit
  | [] => return ()
  | (label, command) :: rest => do
    World.note (.answer label (← run command))
    giveAll run rest

/-- Follows an outcome to its end. -/
def follow (run : Performer) : Outcome → Act World (Except Blame Unit)
  | .succeed => return .ok ()
  | .fail blame => return .error blame
  | .panic m => throw (.panic m)
  | .attempt command => do
    match ← run command with
    | .ok _ => return .ok ()
    | .error e => return .error (.error e)
  | .perform commands last => do
    giveAll run commands
    follow run last

/-- A scripted call: it is noted, and follows the next outcome of its script. -/
def call (run : Performer) (i : Nat) (label : String) (phase : Phase) : Act World (Except Blame Unit) := do
  World.note (.call s!"{phase.text}:{label}")
  match ((← (World.scripts i).read).line phase).head? with
  | none => return .ok ()
  | some outcome =>
    (World.scripts i).modify (·.advance phase)
    follow run outcome

/-- A scripted call of a hook. -/
def hookCall (run : Performer) (i : Nat) (label : String) (phase : Phase) : Act World (Except Cause Unit) := do
  match ← call run i label phase with
  | .ok () => return .ok ()
  | .error blame => return .error blame.toCause

/-- What an actor does with a failure of its own. -/
def takeFailure (label : String) (policy : FailurePolicy) (e : SupervisorError) : Act World (Reply Unit) := do
  match policy with
  | .log =>
    Act.log (.failureReported e)
    return .error e
  | .answer =>
    World.note (.call s!"failed:{label}:{e.message}")
    return .error e
  | .swallow =>
    World.note (.call s!"failed:{label}:{e.message}")
    return .ok ()
  | .replace e' =>
    World.note (.call s!"failed:{label}:{e.message}")
    return .error e'

/-- The hooks of an actor. -/
def actorHooks (run : Performer) (i : Nat) (actor : Actor) : Hooks World where
  name := actor.name
  resettable := actor.resettable
  start := hookCall run i actor.label .start
  stop := hookCall run i actor.label .stop
  reset := if actor.resets then hookCall run i actor.label .reset else pure (.ok ())
  failed := takeFailure actor.label actor.policy

/-- The hooks of a component that has a state machine. -/
def hooks? (scene : Scene) (run : Performer) (i : Nat) : Option (Hooks World) :=
  match scene.cast[i]? with
  | some (.actor actor) => some (actorHooks run i actor)
  | some (.heartbeat heartbeat) =>
    some (heartbeat.hooks (World.pulse i) (ThreadHost.threads World.threadsPart))
  | _ => none

/-- A component that is not cast answers nothing. -/
def absent : Lifecycle World where
  name := ""
  request _ := return .ok ()

/-- A component of the cast. -/
def component (scene : Scene) (run : Performer) (i : Nat) : Lifecycle World :=
  match scene.hooks? run i with
  | some hooks =>
    let machine := Machine.component (World.machine i) hooks
    { machine with request := fun r => World.whileBusy i (machine.request r) }
  | none =>
    match scene.cast[i]? with
    | some (.bare name label) =>
      { name
        request := fun r => do
          match ← call run i label r.phase with
          | .ok () => return .ok ()
          | .error blame => return .error blame.toError }
    | some .manager => (scene.manager run i).toLifecycle
    | _ => absent

/-- The state machine of a component, which must not be busy. -/
def machineOf (i : Nat) : Act World Machine := do
  World.awaitIdle i
  (World.machine i).read

/-- A component described for debugging. -/
def description (name : String) (machine : Machine) : String :=
  "LifecycleStateMachine \x7b name: " ++ Text.quoted name ++ ", state: " ++ machine.state.label ++ ", failed: "
    ++ toString machine.failure.isSome ++ " \x7d"

/-- Answers with a value. -/
def answer (x : Act World Value) : Act World (Reply Value) :=
  return .ok (← x)

/-- Answers with the value of a computation that may fail. -/
def answering {α : Type} (x : Act World (Reply α)) (value : α → Value) : Act World (Reply Value) :=
  Act.andThen x fun a => return .ok (value a)

/-- Carries one command out; the commands that hooks give are carried out by `run`. -/
def obey (scene : Scene) (run : Performer) : Command → Act World (Reply Value)
  | .request i r => answering ((scene.component run i).request r) fun _ => .unit
  | .quietly i r => answer do return .flag (← (scene.component run i).quietly r)
  | .name i => answer (return .text (scene.nameOf i))
  | .same i j => answer (return .flag (i == j))
  | .state i => answer do return .state (← machineOf i).state
  | .isIn i state => answer do return .flag ((← machineOf i).state == state)
  | .isResettable i => answer (return .flag ((scene.hooks? run i).any (·.resettable)))
  | .failure i => answer do return .failure (← machineOf i).failure
  | .describe i => answer do return .text (description (scene.nameOf i) (← machineOf i))
  | .hook i phase => answer do
    match scene.hooks? run i with
    | none => return .unit
    | some hooks =>
      match ← hooks.invoke phase with
      | .ok () => return .unit
      | .error cause => return .hookFailed cause
  | .recast i start stop reset => answer do
    (World.scripts i).modify fun s => ⟨start.getD s.start, stop.getD s.stop, reset.getD s.reset⟩
    return .unit
  | .isRunning i => answer do return .flag (← (World.pulse i).read).running
  | .beats i => answer do return .count (← (World.pulse i).read).beats
  | .awaitBeats i n => answer do
    (World.pulse i).modify fun pulse => { pulse with beats := max pulse.beats n }
    return .flag true
  | .add m i => answer do return .flag (← (scene.manager run m).add i)
  | .remove m i => answer do return .flag (← (scene.manager run m).remove i)
  | .contains m i => answer do return .flag (← (scene.manager run m).contains i)
  | .clear m => answer do
    (scene.manager run m).clear
    return .unit
  | .size m => answer do return .count (← (scene.manager run m).size)
  | .isEmpty m => answer do return .flag (← (scene.manager run m).isEmpty)
  | .members m => answer do return .components (← (scene.manager run m).members)
  | .batch m r => answering ((scene.manager run m).request r) fun _ => .unit
  | .batchQuietly m r => answer do return .flag (← (scene.manager run m).quietly r)
  | .enlist i => answering ((scene.coordinator run).add i) .flag
  | .discharge i => answering ((scene.coordinator run).remove i) .flag
  | .enlistAll ids => answering ((scene.coordinator run).addAll ids) .count
  | .dischargeAll ids => answering ((scene.coordinator run).removeAll ids) .count
  | .dischargeEveryone => answering (scene.coordinator run).clear fun _ => .unit
  | .registered => answer do return .count (← (scene.coordinator run).registered)
  | .isHookInstalled => answer do return .flag (← (scene.coordinator run).isHookInstalled)
  | .runExitAction => answer do
    (scene.coordinator run).runExitAction
    return .unit
  | .fire => answer do return .flag (← HookLedger.fire World.ledgerPart (scene.coordinator run).exitAction)
  | .refuseInstall m => answer do
    World.ledgerPart.modify fun ledger => { ledger with installRefusals := ledger.installRefusals ++ [m] }
    return .unit
  | .refuseUninstall m => answer do
    World.ledgerPart.modify fun ledger => { ledger with uninstallRefusals := ledger.uninstallRefusals ++ [m] }
    return .unit

/-- Carries one command out, with commands nested at most so deep. -/
def perform (scene : Scene) : Nat → Command → Act World (Reply Value)
  | 0, _ => throw .overflow
  | depth + 1, command => scene.obey (scene.perform depth) command

end Scene

end Scenario

/-- A scenario: who plays it with which scripts, and what is commanded from outside. -/
structure Scenario where
  parts : List (Scenario.Role × Scenario.Scripts)
  steps : List Scenario.Command

namespace Scenario

/-- What is seen of one step: its answer, or the panic that ended it, the notes and events it caused, and the world after
it. -/
structure Frame where
  answer : Except Interruption (Reply Value)
  notes : List Note
  events : List Event
  world : World

/-- The cast of a scenario. -/
def scene (scenario : Scenario) : Scene :=
  ⟨(scenario.parts.map Prod.fst).toArray⟩

/-- The world in which a scenario begins. -/
def start (scenario : Scenario) : World where
  figures := (scenario.parts.map fun (_, scripts) => { scripts }).toArray

/-- How many outcomes are written down anywhere in a scenario. -/
def count (scenario : Scenario) : Nat :=
  (scenario.parts.map fun (_, scripts) => scripts.count).foldr (· + ·) 0 + (scenario.steps.map Command.count).foldr (· + ·) 0

/-- A depth that no finite nesting of commands reaches. -/
def depth (scenario : Scenario) : Nat :=
  (scenario.count + 2) * (scenario.parts.length + 2)

/-- Plays commands one after the other, each in the world that the one before left. -/
def frames (scene : Scene) (depth : Nat) : List Command → World → List Frame
  | [], _ => []
  | command :: rest, world =>
    let (answer, after, events) := Act.runOn (scene.perform depth command) { world with notes := [] }
    ⟨answer, after.notes, events, after⟩ :: frames scene depth rest after

/-- Plays a scenario. -/
def play (scenario : Scenario) : List Frame :=
  frames scenario.scene scenario.depth scenario.steps scenario.start

end Scenario

end Supervision

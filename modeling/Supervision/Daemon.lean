import Supervision.Config.Load
import Supervision.Config.Rendering
import Supervision.Config.Validation
import Supervision.Heartbeat
import Supervision.Logging
import Supervision.SignalHook
import Supervision.Text.Pieces

/-!
# The daemon

The daemon loads and validates its configuration, starts the heartbeats, and then waits for an exit status, which a signal
hands over once everything is stopped. Its heartbeats are the components of one manager, numbered in the order of the
configuration; the manager is the one component of a coordinator, whose exit hook is bound to the signals.

A run has two parts. `Daemon.startUp` goes as far as the point where the daemon waits, or to its end if it is asked for
less or something fails; heartbeats that it leaves behind are stopped. `Daemon.await` deals with one signal after the other
until a status is there. What the operating system answers on the way, a thread it refuses for instance, is given in
advance as a part of the `Daemon.World`.
-/

namespace Supervision

namespace Daemon

/-- What changes about a heartbeat. -/
structure Pacemaker where
  machine : Machine := {}
  pulse : Pulse := {}

/-- Everything that changes while the daemon runs. -/
structure World where
  pacemaker : Nat → Pacemaker := fun _ => {}
  components : Registry Nat := .empty
  registration : Registration Unit := {}
  arming : Arming Unit := {}
  threads : ThreadHost := {}
  /-- For each of the next registrations of a listener its error, or nothing. Where nothing is given, all goes well. -/
  listenerOutcomes : List (Option SupervisorError) := []
  /-- The exit codes handed over so far, oldest first. -/
  codes : List Int32 := []
  logPlan : LogPlan := {}
  /-- The lines on the standard output, other than those of the log. -/
  printed : List String := []
  /-- The lines on the standard error output. -/
  complaints : List String := []

namespace World

/-- The place of a heartbeat. -/
def pacemakerPart (i : Nat) : Part World Pacemaker where
  get w := w.pacemaker i
  set p w := { w with pacemaker := fun k => if k = i then p else w.pacemaker k }

/-- The place of the state machine of a heartbeat. -/
def machinePart (i : Nat) : Part World Machine :=
  (pacemakerPart i).comp ⟨Pacemaker.machine, fun machine p => { p with machine }⟩

/-- The place of the pulse of a heartbeat. -/
def pulsePart (i : Nat) : Part World Pulse :=
  (pacemakerPart i).comp ⟨Pacemaker.pulse, fun pulse p => { p with pulse }⟩

/-- The place of the registrations of heartbeats. -/
def componentsPart : Part World (Registry Nat) :=
  ⟨World.components, fun components w => { w with components }⟩

/-- The place of what the coordinator keeps. -/
def registrationPart : Part World (Registration Unit) :=
  ⟨World.registration, fun registration w => { w with registration }⟩

/-- The place of the arming of the exit hook. -/
def armingPart : Part World (Arming Unit) :=
  ⟨World.arming, fun arming w => { w with arming }⟩

/-- The place of the threads. -/
def threadsPart : Part World ThreadHost :=
  ⟨World.threads, fun threads w => { w with threads }⟩

/-- Prints a line. -/
def print (line : String) : Act World Unit :=
  Act.modifyWorld fun w => { w with printed := w.printed ++ [line] }

/-- Complains with lines. -/
def complain (lines : List String) : Act World Unit :=
  Act.modifyWorld fun w => { w with complaints := w.complaints ++ lines }

/-- Registers a listener with the operating system. -/
def registerListener : Act World (Reply Unit) := do
  let outcome := (← Act.world).listenerOutcomes.head?.join
  Act.modifyWorld fun w => { w with listenerOutcomes := w.listenerOutcomes.tail }
  match outcome with
  | none => return .ok ()
  | some e => return .error e

/-- Hands an exit code over. -/
def handOver (code : Int32) : Act World Unit :=
  Act.modifyWorld fun w => { w with codes := w.codes ++ [code] }

end World

/-- The hooks of a heartbeat by its number. -/
def hooks (config : SupervisorConfig) (i : Nat) : Hooks World :=
  let h := config.heartbeat.getD i default
  (Heartbeat.mk h.name h.intervalMs).hooks (World.pulsePart i) (ThreadHost.threads World.threadsPart)

/-- The manager of the heartbeats. -/
def manager (config : SupervisorConfig) : Manager World Nat where
  seat := World.componentsPart
  component i := Machine.component (World.machinePart i) (hooks config i)

/-- The exit hook. -/
def hook : SignalHook World Unit where
  seat := World.armingPart
  register := World.registerListener

/-- The coordinator that stops the heartbeats on exit. -/
def coordinator (config : SupervisorConfig) : Coordinator World Unit where
  seat := World.registrationPart
  hook := hook.exitHook ()
  component _ := (manager config).toLifecycle

/-- The listener of the exit hook. It hands exit codes over, so that the log is complete when the process ends. -/
def listener (config : SupervisorConfig) : SignalListener World Unit where
  hook := hook
  shutdown := config.shutdown
  run _ := (coordinator config).exitAction
  exitProcess := World.handOver

/-- Why the daemon gives up. -/
inductive Fault where
  | supervisor (error : SupervisorError)
  /-- The log cannot go to a file without a name. -/
  | namelessLogFile (path : String)

namespace Fault

/-- The text of a fault. -/
def message : Fault → String
  | supervisor e => e.message
  | namelessLogFile path => s!"Log file path '{path}' has no file name"

/-- The text of the error behind a fault, if there is one. -/
def source? : Fault → Option String
  | supervisor e => e.source?
  | namelessLogFile _ => none

/-- A text moved to the right, all lines of it. -/
def indented (text : String) : String :=
  "\n".intercalate ((Text.pieces '\n' text).map ("    " ++ ·))

/-- The last words of a daemon that gives up. -/
def lines (fault : Fault) : List String :=
  s!"Error: {fault.message}" ::
    match fault.source? with
    | none => []
    | some source => ["", "Caused by:", indented source]

end Fault

/-- Where the daemon is when it has started up. -/
inductive Stance where
  /-- There is nothing left to do; the process ends with a code. -/
  | finished (code : Int32)
  /-- The heartbeats of this configuration run until a signal comes. -/
  | waiting (config : SupervisorConfig)
deriving DecidableEq, Repr

/-- Registers heartbeats by their numbers. -/
def enrol (config : SupervisorConfig) : List Nat → Act World Unit
  | [] => return ()
  | i :: rest => do
    discard ((manager config).add i)
    enrol config rest

/-- Starts the heartbeats and puts them under the coordinator. Whenever that fails, all are stopped again. -/
def launch (config : SupervisorConfig) : Act World (Except Fault Stance) := do
  match ← (manager config).request .start with
  | .error e =>
    Act.log (.startFailed e)
    discard ((manager config).quietly .stop)
    return .error (.supervisor e)
  | .ok () =>
    if !config.shutdown.exitProcess then
      Act.log .exitDisabled
    match ← (coordinator config).add () with
    | .error e =>
      Act.log (.hookRefused e)
      discard ((manager config).quietly .stop)
      return .error (.supervisor e)
    | .ok _ =>
      Act.log (.daemonRunning (← (manager config).size))
      return .ok (.waiting config)

/-- Registers the heartbeats of a valid configuration, and launches them unless this is a dry run. -/
def assemble (options : Options) (config : SupervisorConfig) : Act World (Except Fault Stance) := do
  enrol config (List.range config.heartbeat.length)
  if ← (manager config).isEmpty then
    Act.log .nothingConfigured
  if options.dryRun then
    let count ← (manager config).size
    Act.log (.dryRun count)
    World.print s!"✓ Dry run completed successfully - {count} components registered"
    return .ok (.finished 0)
  else
    launch config

/-- Goes on with a configuration that is loaded; from here on there is a log. -/
def supervise (options : Options) (config : SupervisorConfig) : Act World (Except Fault Stance) := do
  Act.log (.daemonStarting daemonVersion)
  Act.log (.configurationFile options.config)
  match config.validate with
  | .error e =>
    Act.log (.validationFailed e)
    World.complain [s!"✗ Configuration validation failed: {e.message}"]
    return .ok (.finished 1)
  | .ok () =>
    if options.validateConfig then
      Act.log .validationSucceeded
      World.print "✓ Configuration is valid"
      return .ok (.finished 0)
    else
      assemble options config

/-- Settles where the log goes. -/
def setUpLog (options : Options) (config : SupervisorConfig) (filter : Option String) : Act World (Except Fault Unit) := do
  let (complaints, plan) := LogPlan.make options config.logging filter
  World.complain complaints
  match plan with
  | .error path => return .error (.namelessLogFile path)
  | .ok logPlan =>
    Act.modifyWorld fun w => { w with logPlan }
    return .ok ()

/-- The lines of the configuration file that is printed on request. -/
def sampleConfig (config : String) : List String := [
  "# Lifecycle supervisor configuration file",
  "# Add one [[heartbeat]] table per supervised heartbeat, e.g.",
  "#",
  "# [[heartbeat]]",
  "# name = \"pulse\"",
  "# interval_ms = 1000",
  ""] ++ Text.pieces '\n' config

/-- Prints a configuration file that gives the defaults. -/
def printConfig : Act World (Except Fault Stance) := do
  match ({} : SupervisorConfig).toToml with
  | .error e => return .error (.supervisor e)
  | .ok text =>
    Act.modifyWorld fun w => { w with printed := w.printed ++ sampleConfig text }
    return .ok (.finished 0)

end Daemon

/-- A daemon as it is called: its options, the directory it is called in, and the variables of its environment. -/
structure Daemon where
  options : Options
  tree : FileTree
  environment : List (String × String)

namespace Daemon

/-- The filter that the environment gives for the log. -/
def filter? (daemon : Daemon) : Option String :=
  daemon.environment.lookup "RUST_LOG"

/-- The configuration that the daemon finds. -/
def config (daemon : Daemon) : Reply SupervisorConfig :=
  SupervisorConfig.load daemon.tree daemon.options.config daemon.environment

/-- The first part of a run. -/
def startUp (daemon : Daemon) : Act World (Except Fault Stance) := do
  if daemon.options.printConfig then
    printConfig
  else
    match daemon.config with
    | .error e => return .error (.supervisor e)
    | .ok config =>
      match ← setUpLog daemon.options config daemon.filter? with
      | .error fault => return .error fault
      | .ok () => supervise daemon.options config

/-- Deals with one signal. Answers with the exit code if one was handed over. -/
def receive (config : SupervisorConfig) (signal : TerminationSignal) : Act World (Option Int32) := do
  (listener config).receive signal
  match (← Act.world).codes.head? with
  | none => return none
  | some code =>
    Act.log (.daemonExiting code)
    return some code

/-- Deals with one signal after the other until an exit code is there. -/
def await (config : SupervisorConfig) : List TerminationSignal → Act World (Option Int32)
  | [] => return none
  | signal :: rest => do
    match ← receive config signal with
    | some code => return some code
    | none => await config rest

/-- Runs the daemon while it is sent signals. Answers with the exit code, or nothing if it goes on waiting. -/
def run (daemon : Daemon) (signals : List TerminationSignal) : Act World (Option Int32) := do
  match ← daemon.startUp with
  | .error fault =>
    World.complain fault.lines
    return some 1
  | .ok (.finished code) => return some code
  | .ok (.waiting config) => await config signals

end Daemon

end Supervision

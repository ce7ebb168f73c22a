import Supervision.Daemon.Run

/-!
# The program

The command line of the daemon. The configuration file is looked for below the working directory. Signals come from the
standard input, a line `INT` or `TERM` for each, so that they are dealt with one at a time; its end counts as `TERM`. The
beats of the heartbeats are the only thing that happens between two signals.
-/

namespace Supervision.Program

/-- The variables of the environment. -/
def environment : IO (List (String × String)) := do
  let bytes ← try IO.FS.readBinFile "/proc/self/environ" catch _ => pure .empty
  let text := (String.fromUTF8? bytes).getD ""
  return (text.splitOn "\x00").filterMap fun entry =>
    match entry.splitOn "=" with
    | name :: value@(_ :: _) => some (name, "=".intercalate value)
    | _ => none

/-- The files that can be the configuration file of a path. -/
def candidates (path : String) : IO FileTree := do
  let mut entries := []
  for candidate in [path, path ++ ".toml"] do
    try
      entries := entries ++ (FileTree.ofFile candidate (← IO.FS.readBinFile candidate)).entries
    catch _ => pure ()
  return ⟨entries⟩

/-- Writes an event to where the log goes. -/
def logEvent (plan : LogPlan) (event : Event) : IO Unit := do
  if plan.filter.permits event then
    event.lines.forM fun line => IO.println line.text
    if let some path := plan.file then
      let file ← IO.FS.Handle.mk path .append
      event.targetLines.forM fun line => file.putStrLn line.text

/-- Makes sure that the file of the log is there. -/
def prepare (plan : LogPlan) : IO Unit := do
  if let some path := plan.file then
    let directory := "/".intercalate (FilePath.trimmed path).dropLast
    if directory ≠ "" then
      IO.FS.createDirAll directory
    discard (IO.FS.Handle.mk path .append)

/-- Writes what a part of a run told, printed and complained about. -/
def publish (before after : Daemon.World) (events : List Event) : IO Unit := do
  prepare after.logPlan
  events.forM (logEvent after.logPlan)
  (after.printed.drop before.printed.length).forM IO.println
  (after.complaints.drop before.complaints.length).forM IO.eprintln

/-- Carries out a part of a run, and publishes it. -/
def perform {α : Type} (x : Act Daemon.World α) (world : Daemon.World) : IO (Except Interruption α × Daemon.World) := do
  let (answer, after, events) := Act.runOn x world
  publish world after events
  return (answer, after)

/-- Sleeps for so many milliseconds, in naps, unless it is told to wake up. -/
partial def doze (asleep : IO.Ref Bool) (rest : Nat) : IO Unit := do
  if rest > 0 && (← asleep.get) then
    let nap := min rest 100
    IO.sleep nap.toUInt32
    doze asleep (rest - nap)

/-- Beats until it is told to stop. -/
partial def beat (plan : LogPlan) (running : IO.Ref Bool) (h : HeartbeatConfig) (count : Nat) : IO Unit := do
  doze running h.intervalMs.toNat
  if ← running.get then
    logEvent plan (.heartbeat h.name count)
    beat plan running h (count + 1)

/-- The signal that a line stands for. -/
def signal? (line : String) : Option TerminationSignal :=
  match line.trimAscii.toString with
  | "INT" => some .interrupt
  | "TERM" => some .terminate
  | _ => if line.isEmpty then some .terminate else none

/-- Deals with signals until an exit code is there. -/
partial def await (config : SupervisorConfig) (running : IO.Ref Bool) (world : Daemon.World) : IO Int32 := do
  match signal? (← (← IO.getStdin).getLine) with
  | none => await config running world
  | some signal =>
    running.set false
    match ← perform (Daemon.receive config signal) world with
    | (.ok (some code), _) | (.error (.exit code), _) => return code
    | (.ok none, world) | (.error _, world) => await config running world

/-- Runs a daemon. -/
def run (daemon : Daemon) : IO Int32 := do
  match ← perform daemon.startUp {} with
  | (.ok (.ok (.finished code)), _) => return code
  | (.ok (.ok (.waiting config)), world) =>
    let running ← IO.mkRef true
    config.heartbeat.forM fun h => discard (IO.asTask (beat world.logPlan running h 1) .dedicated)
    await config running world
  | (.ok (.error fault), _) =>
    fault.lines.forM IO.eprintln
    return 1
  | (.error interruption, _) =>
    match interruption with
    | .exit code => return code
    | .panic m => IO.eprintln s!"panicked: {m}"
    | _ => pure ()
    return Daemon.panicCode

end Supervision.Program

open Supervision in
/-- Runs the daemon that the command line asks for. -/
def main (arguments : List String) : IO UInt32 := do
  let code ← match Options.ofArguments arguments with
    | .error dismissal =>
      let seen := Daemon.Run.ofDismissal dismissal
      seen.printed.forM IO.println
      seen.complaints.forM IO.eprintln
      pure dismissal.status
    | .ok options =>
      Program.run ⟨options, ← Program.candidates options.config, ← Program.environment⟩
  (← IO.getStdout).flush
  return (exitStatus code).toUInt32

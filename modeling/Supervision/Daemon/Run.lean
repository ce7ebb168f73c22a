import Supervision.Daemon
import Supervision.Logging.Line

/-!
# Runs of the daemon

A `Daemon.Run` is what is seen of a run from outside: the exit code, what it printed and complained about, and its log. The
log goes to the standard output, among the printed lines, and perhaps to a file: `Run.output` and `Run.fileLines?` are the
lines that are found there.
-/

namespace Supervision

namespace Daemon

/-- The exit code of a process that panics. -/
def panicCode : Int32 := 101

/-- What is seen of a run from outside: the exit code unless the daemon goes on, what it wrote, and its log. -/
structure Run where
  code : Option Int32
  printed : List String := []
  complaints : List String := []
  log : List Event := []
  logFile : Option String := none

/-- What is seen of a run that ended so in a world. -/
def Run.ofWorld (code : Option Int32) (world : World) (events : List Event) : Run where
  code := code
  printed := world.printed
  complaints := world.complaints
  log := events.filter world.logPlan.filter.permits
  logFile := world.logPlan.file

/-- Runs the daemon from a world on, and watches. -/
def watch (daemon : Daemon) (signals : List TerminationSignal) (world : World) : Run :=
  match Act.runOn (daemon.run signals) world with
  | (.ok code, after, events) => .ofWorld code after events
  | (.error (.exit code), after, events) => .ofWorld (some code) after events
  | (.error (.panic m), after, events) =>
    .ofWorld (some panicCode) { after with complaints := after.complaints ++ [s!"panicked: {m}"] } events
  | (.error _, after, events) => .ofWorld none after events

/-- What is seen of a daemon that is dismissed. -/
def Run.ofDismissal (dismissal : Dismissal) : Run where
  code := some dismissal.status
  printed := match dismissal with
    | .help => Dismissal.usage
    | .version => [Dismissal.versionLine]
    | .misuse => []
  complaints := if dismissal = .misuse then Dismissal.usage else []

/-- Calls the daemon with arguments, and watches. -/
def call (arguments : List String) (tree : FileTree) (environment : List (String × String))
    (signals : List TerminationSignal) : Run :=
  match Options.ofArguments arguments with
  | .error dismissal => .ofDismissal dismissal
  | .ok options => (Daemon.mk options tree environment).watch signals {}

namespace Run

/-- The lines of the standard output. What is printed comes when nothing more is logged. -/
def output (run : Run) : List LogLine :=
  run.log.flatMap Event.lines ++ run.printed.map .other

/-- The lines of a file after the run, if there is one at the path. The log goes behind what its file held before. -/
def fileLines? (run : Run) (tree : FileTree) (path : String) : Option (List LogLine) :=
  let before := (tree.file? path).map fun bytes => (String.fromUTF8? bytes).getD ""
  if (FilePath.place? path).isSome && run.logFile.bind FilePath.place? == FilePath.place? path then
    some (LogLine.behind (before.getD "") (run.log.flatMap Event.targetLines))
  else before.map fun text => LogLine.behind text []

end Run

end Daemon

end Supervision

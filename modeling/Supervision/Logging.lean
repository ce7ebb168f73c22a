import Supervision.Config
import Supervision.Config.Validation
import Supervision.Event
import Supervision.FileTree
import Supervision.Logging.Directive
import Supervision.Options
import Supervision.Text.Pieces

/-!
# What is logged, and where

A `LogFilter` is a list of directives; of those that an event is in the scope of, the narrowest one counts: the one with the
longest target, and then one that asks for a field. The environment may give a filter. Otherwise the command line, and after
it the configuration, gives a level for the supervisor as a whole.

A `LogPlan` is the filter and the file that the log goes to beside the standard output. A plan is made before the
configuration is validated, so that its level and format may be unknown; the plan then does without them, and complains.
-/

namespace Supervision

/-- Directives, later ones before earlier ones for the same target. -/
structure LogFilter where
  directives : List LogDirective
deriving DecidableEq, Repr

namespace LogFilter

/-- The filter of directives; without any, it lets errors through. -/
def ofDirectives : List LogDirective → LogFilter
  | [] => ⟨[⟨"", .any, 1⟩]⟩
  | directives => ⟨directives.reverse⟩

/-- The directives of a text, between commas. -/
def pieces (text : String) : List String :=
  (Text.pieces ',' text).filter (· ≠ "")

/-- Reads a filter, if all of its directives are well-formed. -/
def parse? (text : String) : Option LogFilter :=
  match (pieces text).mapM LogDirective.parse with
  | .ok directives => some (ofDirectives directives)
  | .error _ => none

/-- The complaint about a piece of a filter, if it is no directive. -/
def complaint? (piece : String) : Option String :=
  match LogDirective.parse piece with
  | .ok _ => none
  | .error fault => some s!"ignoring \x60{piece}\x60: {fault.message}"

/-- Reads a filter as far as its directives are well-formed, with a complaint about each one that is not. -/
def salvage (text : String) : LogFilter × List String :=
  (ofDirectives ((pieces text).filterMap fun piece => (LogDirective.parse piece).toOption),
    (pieces text).filterMap complaint?)

/-- Whether a directive is for the events of a target. -/
def concerns (target : String) (d : LogDirective) : Bool :=
  d.target.toList.isPrefixOf target.toList && d.scope.covers

/-- Whether the second of two directives for an event is narrower. -/
def isNarrower (a b : LogDirective) : Bool :=
  a.target.length < b.target.length || (a.target.length == b.target.length && a.scope.rank < b.scope.rank)

/-- The narrower one of two directives for an event, or else the first. -/
def narrower (a b : LogDirective) : LogDirective :=
  if isNarrower a b then b else a

/-- The detail that is let through from a target. -/
def detailFor (filter : LogFilter) (target : String) : Nat :=
  match filter.directives.filter (concerns target) with
  | [] => 0
  | d :: rest => (rest.foldl narrower d).detail

/-- Whether an event is logged. -/
def permits (filter : LogFilter) (event : Event) : Bool :=
  event.level.detail ≤ filter.detailFor event.teller.target

end LogFilter

/-- Where the log goes. -/
structure LogPlan where
  filter : LogFilter := ⟨[]⟩
  /-- A file that is written beside the standard output. -/
  file : Option String := none
deriving DecidableEq, Repr, Inhabited

namespace LogPlan

/-- The level asked for: the most talkative one of the command line, or the configured one. -/
def level (options : Options) (config : LoggingConfig) : String :=
  if options.debug then "debug"
  else if options.verbose then "info"
  else if options.quiet then "error"
  else config.level

/-- The filter to use, with complaints. -/
def chooseFilter (options : Options) (config : LoggingConfig) (fromEnvironment : Option String) :
    LogFilter × List String :=
  match fromEnvironment.bind LogFilter.parse? with
  | some filter => (filter, [])
  | none => LogFilter.salvage s!"lifecycle_supervisor={level options config}"

/-- Complaints about the format asked for. -/
def formatComplaints (options : Options) (config : LoggingConfig) : List String :=
  let format := options.logFormat.getD config.format
  if format ∈ logFormats then [] else [s!"Warning: Unknown log format '{format}', using default"]

/-- Makes a plan, with complaints. The answer is a path in place of the plan if the log was to go to that path and it ends
with no file name. -/
def make (options : Options) (config : LoggingConfig) (fromEnvironment : Option String) :
    List String × Except String LogPlan :=
  let (filter, complaints) := chooseFilter options config fromEnvironment
  let plan := match options.logFile.or config.file with
    | none => .ok { filter }
    | some path => if (FilePath.fileName? path).isSome then .ok { filter, file := some path } else .error path
  (complaints ++ formatComplaints options config, plan)

end LogPlan

end Supervision

import Supervision.Config
import Supervision.Error
import Supervision.Text.Blank

/-!
# Valid configurations

`SupervisorConfig.validate` accepts the configurations that a daemon can run, and names the first fault of any other one:
in the exit code, the level, the format, and then heartbeat by heartbeat.
-/

namespace Supervision

/-- The names of log levels. -/
def logLevels : List String := ["error", "warn", "info", "debug", "trace"]

/-- The names of log formats. -/
def logFormats : List String := ["pretty", "compact", "json"]

namespace SupervisorConfig

/-- A rule that a configuration violates. -/
inductive Violation where
  | exitCode (code : Int32)
  | level (level : String)
  | format (format : String)
  | blankName
  | zeroInterval (name : String)
  | duplicateName (name : String)
deriving DecidableEq, Repr

/-- The text of a violation. -/
def Violation.message : Violation → String
  | exitCode code => s!"Shutdown exit_code must be between 0 and 255, got {code.toInt}"
  | level l => s!"Unknown log level '{l}'"
  | format f => s!"Unknown log format '{f}'"
  | blankName => "Heartbeat name must not be empty"
  | zeroInterval name => s!"Heartbeat '{name}' interval_ms must be greater than 0"
  | duplicateName name => s!"Duplicate heartbeat name '{name}'"

/-- The first violation of heartbeats that follow others with these names. -/
def heartbeatViolation? : List String → List HeartbeatConfig → Option Violation
  | _, [] => none
  | seen, h :: rest =>
    if Text.isBlank h.name then some .blankName
    else if h.intervalMs = 0 then some (.zeroInterval h.name)
    else if h.name ∈ seen then some (.duplicateName h.name)
    else heartbeatViolation? (h.name :: seen) rest

/-- The first violation of a configuration. -/
def violation? (c : SupervisorConfig) : Option Violation :=
  if c.shutdown.exitCode < 0 ∨ 255 < c.shutdown.exitCode then some (.exitCode c.shutdown.exitCode)
  else if c.logging.level ∉ logLevels then some (.level c.logging.level)
  else if c.logging.format ∉ logFormats then some (.format c.logging.format)
  else heartbeatViolation? [] c.heartbeat

/-- Accepts a valid configuration. -/
def validate (c : SupervisorConfig) : Reply Unit :=
  match c.violation? with
  | none => .ok ()
  | some v => .error (.config (.invalid v.message))

end SupervisorConfig

end Supervision

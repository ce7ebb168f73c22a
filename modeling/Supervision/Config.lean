/-!
# Configuration

What a supervisor daemon is told: how to exit, how to log, and which heartbeats to run.
-/

namespace Supervision

/-- What happens when the process is asked to terminate. -/
structure ShutdownConfig where
  /-- Whether the process ends once the exit hook has stopped everything. -/
  exitProcess : Bool := true
  /-- The exit status after the hook ran. -/
  exitCode : Int32 := 0
deriving DecidableEq, Repr, Inhabited

/-- How the daemon logs. -/
structure LoggingConfig where
  level : String := "info"
  format : String := "pretty"
  /-- A file that the log is written to as well. -/
  file : Option String := none
deriving DecidableEq, Repr, Inhabited

/-- A heartbeat to run, with its interval in milliseconds. -/
structure HeartbeatConfig where
  name : String
  intervalMs : UInt64 := 1000
deriving DecidableEq, Repr, Inhabited

/-- The whole configuration. -/
structure SupervisorConfig where
  shutdown : ShutdownConfig := {}
  logging : LoggingConfig := {}
  heartbeat : List HeartbeatConfig := []
deriving DecidableEq, Repr, Inhabited

end Supervision

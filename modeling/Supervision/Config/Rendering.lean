import Supervision.Config
import Supervision.Error
import Supervision.Toml.Written

/-!
# Configurations as TOML

`SupervisorConfig.toToml` writes a configuration with all its fields in a table for each section, and one for each
heartbeat. The integers of TOML have 64 bits with the sign, so an interval beyond them cannot be written.
-/

namespace Supervision

/-- A line of a table: a key and its value. -/
def keyLine (key : String) (value : List Char) : List Char :=
  key.toList ++ [' ', '=', ' '] ++ value ++ ['\n']

/-- A line with the header of a table. -/
def headerLine (header : String) : List Char :=
  header.toList ++ ['\n']

/-- A written string. -/
def writtenText (s : String) : List Char :=
  Toml.written s.toList

/-- The lines of the section on exiting. -/
def ShutdownConfig.tomlLines (c : ShutdownConfig) : List Char :=
  headerLine "[shutdown]" ++ keyLine "exit_process" (if c.exitProcess then "true" else "false").toList
    ++ keyLine "exit_code" (toString c.exitCode.toInt).toList

/-- The lines of the section on logging. -/
def LoggingConfig.tomlLines (c : LoggingConfig) : List Char :=
  headerLine "[logging]" ++ keyLine "level" (writtenText c.level) ++ keyLine "format" (writtenText c.format)
    ++ match c.file with
      | some file => keyLine "file" (writtenText file)
      | none => []

/-- The lines of a heartbeat. -/
def HeartbeatConfig.tomlLines (c : HeartbeatConfig) : List Char :=
  headerLine "[[heartbeat]]" ++ keyLine "name" (writtenText c.name)
    ++ keyLine "interval_ms" (toString c.intervalMs.toNat).toList

namespace SupervisorConfig

/-- The lines of a configuration. -/
def tomlLines (c : SupervisorConfig) : List Char :=
  (if c.heartbeat.isEmpty then keyLine "heartbeat" ['[', ']'] ++ ['\n'] else [])
    ++ c.shutdown.tomlLines ++ '\n' :: c.logging.tomlLines
    ++ c.heartbeat.flatMap fun h => '\n' :: h.tomlLines

/-- The configuration as TOML. -/
def toToml (c : SupervisorConfig) : Reply String :=
  if c.heartbeat.all fun h => h.intervalMs.toNat < 0x8000000000000000 then .ok (String.ofList c.tomlLines)
  else .error (.serialization "out-of-range value for u64 type")

end SupervisorConfig

end Supervision

import Supervision.Proofs.Toml.Assembly

/-!
# Reading a written configuration

Every configuration whose intervals fit into 64 bits with the sign is written as a document, and `parse_tomlLines` says which
table that document holds: one entry for each section, in the order in which the sections are written, with the heartbeats last
if there are any and first if there are none.
-/

namespace Supervision

open Toml

/-! ## The tables of a configuration -/

/-- The table of the section on exiting. -/
def ShutdownConfig.table (c : ShutdownConfig) : Table :=
  [("exit_process", .boolean c.exitProcess), ("exit_code", .integer c.exitCode.toInt)]

/-- The table of the section on logging. -/
def LoggingConfig.table (c : LoggingConfig) : Table :=
  [("level", .string c.level), ("format", .string c.format)] ++
    match c.file with
    | some file => [("file", .string file)]
    | none => []

/-- The table of a heartbeat. -/
def HeartbeatConfig.table (c : HeartbeatConfig) : Table :=
  [("name", .string c.name), ("interval_ms", .integer c.intervalMs.toNat)]

/-- The table of a configuration. -/
def SupervisorConfig.table (c : SupervisorConfig) : Table :=
  let sections := [("shutdown", .table c.shutdown.table), ("logging", .table c.logging.table)]
  if c.heartbeat.isEmpty then ("heartbeat", .array []) :: sections
  else sections ++ [("heartbeat", .array (c.heartbeat.map fun h => .table h.table))]

/-- The keys of a section are distinct. -/
theorem ShutdownConfig.table_keys (c : ShutdownConfig) : (c.table.map (·.1)).Nodup := by
  simp [ShutdownConfig.table]

theorem LoggingConfig.table_keys (c : LoggingConfig) : (c.table.map (·.1)).Nodup := by
  cases hfile : c.file <;> simp [LoggingConfig.table, hfile]

theorem HeartbeatConfig.table_keys (c : HeartbeatConfig) : (c.table.map (·.1)).Nodup := by
  simp [HeartbeatConfig.table]

/-! ## Lines -/

/-- The text of an integer of 64 bits writes it. -/
theorem writes_integer {n : Int} (hn : -(2 ^ 63) ≤ n ∧ n < 2 ^ 63) : Writes (toString n).toList (.integer n) := by
  have hdigit : ∀ c ∈ Nat.toDigits 10 n.natAbs, isWordChar c = true := by
    intro c hc
    have hdigit : c.isDigit = true := Nat.isDigit_of_mem_toDigits (by decide) (by decide) hc
    simp [isWordChar, Char.isAlphanum, hdigit]
  refine writes_word ?_ ?_ (word_integer hn)
  · rw [toList_toString]
    split
    · exact List.cons_ne_nil _ _
    · exact Nat.toDigits_ne_nil
  · rw [toList_toString]
    split
    · exact List.forall_mem_cons.2 ⟨by decide, hdigit⟩
    · exact hdigit

/-- The word for a truth value writes it. -/
theorem writes_boolean (b : Bool) : Writes (if b then "true" else "false").toList (.boolean b) := by
  cases b
  · exact writes_word (by decide) (List.all_eq_true.1 rfl) rfl
  · exact writes_word (by decide) (List.all_eq_true.1 rfl) rfl

/-- A written text writes it. -/
theorem writes_text (s : String) : Writes (writtenText s) (.string s) := by
  have h := writes_string s.toList
  rw [String.ofList_toList] at h
  exact h

/-- The section on exiting reads as its table. -/
theorem ShutdownConfig.lines_tomlLines (c : ShutdownConfig) :
    Lines c.tomlLines (.header ["shutdown"] :: assignments c.table) := by
  have hcode : -(2 ^ 63) ≤ c.exitCode.toInt ∧ c.exitCode.toInt < 2 ^ 63 := by
    have hlow := c.exitCode.le_toInt
    have hhigh := c.exitCode.toInt_lt
    omega
  have hheader : Lines (headerLine "[shutdown]") [.header ["shutdown"]] := Lines.headerLine rfl (by decide)
  have hprocess := Lines.keyLine "exit_process" (by decide) (writes_boolean c.exitProcess)
  have hexit := Lines.keyLine "exit_code" (by decide) (writes_integer hcode)
  exact (hheader.append hprocess).append hexit

/-- The section on logging reads as its table. -/
theorem LoggingConfig.lines_tomlLines (c : LoggingConfig) : Lines c.tomlLines (.header ["logging"] :: assignments c.table) := by
  have hheader : Lines (headerLine "[logging]") [.header ["logging"]] := Lines.headerLine rfl (by decide)
  have hlevel := Lines.keyLine "level" (by decide) (writes_text c.level)
  have hformat := Lines.keyLine "format" (by decide) (writes_text c.format)
  have hsection := (hheader.append hlevel).append hformat
  unfold LoggingConfig.tomlLines LoggingConfig.table
  cases c.file with
  | none => exact hsection.append Lines.nil
  | some file => exact hsection.append (Lines.keyLine "file" (by decide) (writes_text file))

/-- A heartbeat reads as its table. -/
theorem HeartbeatConfig.lines_tomlLines {c : HeartbeatConfig} (hc : c.intervalMs.toNat < 2 ^ 63) :
    Lines c.tomlLines (.arrayHeader ["heartbeat"] :: assignments c.table) := by
  have hinterval : -(2 ^ 63) ≤ (c.intervalMs.toNat : Int) ∧ (c.intervalMs.toNat : Int) < 2 ^ 63 := by omega
  have hheader : Lines (headerLine "[[heartbeat]]") [.arrayHeader ["heartbeat"]] := Lines.arrayHeaderLine rfl (by decide)
  have hname := Lines.keyLine "name" (by decide) (writes_text c.name)
  have hperiod := Lines.keyLine "interval_ms" (by decide) (writes_integer hinterval)
  exact (hheader.append hname).append hperiod

namespace SupervisorConfig

variable {c : SupervisorConfig}

/-- What a configuration writes before its sections: that there are no heartbeats. -/
def root (c : SupervisorConfig) : Table :=
  if c.heartbeat.isEmpty then [("heartbeat", .array [])] else []

/-- The statements that a configuration writes. -/
def statements (c : SupervisorConfig) : List Statement :=
  assignments c.root ++ (.header ["shutdown"] :: assignments c.shutdown.table)
    ++ (.header ["logging"] :: assignments c.logging.table)
    ++ (c.heartbeat.map (·.table)).flatMap fun table => .arrayHeader ["heartbeat"] :: assignments table

/-- The heartbeats read as their tables, each behind an empty line. -/
theorem lines_heartbeats {heartbeats : List HeartbeatConfig} (h : ∀ h ∈ heartbeats, h.intervalMs.toNat < 2 ^ 63) :
    Lines (heartbeats.flatMap fun h => '\n' :: h.tomlLines)
      ((heartbeats.map (·.table)).flatMap fun table => .arrayHeader ["heartbeat"] :: assignments table) := by
  induction heartbeats with
  | nil => exact Lines.nil
  | cons heartbeat heartbeats ih =>
    obtain ⟨hfirst, hrest⟩ := List.forall_mem_cons.1 h
    exact (Lines.blank.append (HeartbeatConfig.lines_tomlLines hfirst)).append (ih hrest)

/-- A configuration reads as its statements. -/
theorem lines_tomlLines (h : ∀ h ∈ c.heartbeat, h.intervalMs.toNat < 2 ^ 63) : Lines c.tomlLines c.statements := by
  have hroot : Lines (if c.heartbeat.isEmpty then keyLine "heartbeat" ['[', ']'] ++ ['\n'] else []) (assignments c.root) := by
    unfold root
    split
    · exact (Lines.keyLine "heartbeat" (by decide) writes_empty).append Lines.blank
    · exact Lines.nil
  have hlogging := Lines.blank.append c.logging.lines_tomlLines
  exact ((hroot.append c.shutdown.lines_tomlLines).append hlogging).append (lines_heartbeats h)

/-! ## The document -/

/-- The tables under construction behind the last section, before any heartbeat. -/
def sections (c : SupervisorConfig) : Entries :=
  leaves c.root ++ [("shutdown", .table .named (leaves c.shutdown.table))]
    ++ [("logging", .table .named (leaves c.logging.table))]

/-- The sections as a finished table. -/
theorem tableOf_sections (c : SupervisorConfig) :
    tableOf c.sections = c.root ++ [("shutdown", .table c.shutdown.table)] ++ [("logging", .table c.logging.table)] := by
  rw [sections, tableOf_append, tableOf_append, tableOf_leaves]
  simp [tableOf, tableOf_leaves, Node.toValue]

/-- The statements before the heartbeats give the sections. -/
theorem foldlM_sections (c : SupervisorConfig) :
    (assignments c.root ++ (.header ["shutdown"] :: assignments c.shutdown.table)
      ++ (.header ["logging"] :: assignments c.logging.table)).foldlM Draft.add {} = some ⟨c.sections, ["logging"]⟩ := by
  have hroot : (assignments c.root).foldlM Draft.add {} = some ⟨leaves c.root, []⟩ :=
    foldlM_assignments opens_root _ [] (by unfold root; split <;> simp)
  have hnoShutdown : (leaves c.root).find? "shutdown" = none := by
    unfold root
    split <;> rfl
  have hnoLogging :
      Entries.find? (leaves c.root ++ [("shutdown", .table .named (leaves c.shutdown.table))]) "logging" = none := by
    unfold root
    split <;> rfl
  rw [List.foldlM_append, List.foldlM_append, hroot, Option.bind_eq_bind, Option.bind_some,
    foldlM_section hnoShutdown [] c.shutdown.table_keys, Option.bind_some,
    foldlM_section hnoLogging ["shutdown"] c.logging.table_keys, sections]

/-- The statements of a configuration give its table. -/
theorem assemble_statements (c : SupervisorConfig) : assemble? c.statements = some c.table := by
  rw [assemble?, statements, List.foldlM_append, foldlM_sections, Option.bind_eq_bind, Option.bind_some]
  by_cases hempty : c.heartbeat = []
  · have hnone : (c.heartbeat.map (·.table)).flatMap
        (fun table => Statement.arrayHeader ["heartbeat"] :: assignments table) = [] := by
      rw [hempty]
      rfl
    rw [hnone, List.foldlM_nil, Option.pure_def, Option.map_some, tableOf_sections]
    simp [hempty, root, table]
  · have hne : c.heartbeat.map (·.table) ≠ [] := by simpa using hempty
    have hkeys : ∀ table ∈ c.heartbeat.map (·.table), (table.map (·.1)).Nodup := by
      intro table htable
      obtain ⟨h, -, rfl⟩ := List.mem_map.1 htable
      exact h.table_keys
    have hnoHeartbeat : c.sections.find? "heartbeat" = none := by
      simp [sections, Entries.find?, root, hempty, leaves]
    have htables : tablesOf ((c.heartbeat.map (·.table)).map leaves) = c.heartbeat.map fun h => .table h.table := by
      rw [tablesOf_leaves, List.map_map]
      rfl
    rw [foldlM_newTables hnoHeartbeat _ hne hkeys, Option.map_some, tableOf_append, tableOf_sections]
    simpa [hempty, root, table, tableOf, Node.toValue] using htables

/-- There are no dates in the table of a configuration. -/
theorem settledDocument_table (c : SupervisorConfig) : settledDocument? c.table = some c.table := by
  have hshutdown : (Value.table c.shutdown.table).settled? = some (.table c.shutdown.table) := rfl
  have hlogging : (Value.table c.logging.table).settled? = some (.table c.logging.table) := by
    unfold LoggingConfig.table
    cases c.logging.file <;> rfl
  have hheartbeat : (Value.array (c.heartbeat.map fun h => .table h.table)).settled? =
      some (.array (c.heartbeat.map fun h => .table h.table)) := by
    rw [Value.settled?, settledItems_self]
    · rfl
    · intro v hv
      obtain ⟨h, -, rfl⟩ := List.mem_map.1 hv
      rfl
  have hstamp : isStamped c.table = false := by
    unfold table
    split <;> rfl
  rw [settledDocument?, hstamp, if_neg Bool.false_ne_true]
  refine settledEntries_self ?_
  unfold table
  split
  · exact List.forall_mem_cons.2 ⟨rfl, List.forall_mem_cons.2 ⟨hshutdown, List.forall_mem_singleton.2 hlogging⟩⟩
  · exact List.forall_mem_cons.2 ⟨hshutdown, List.forall_mem_cons.2 ⟨hlogging, List.forall_mem_singleton.2 hheartbeat⟩⟩

/-- A written configuration is a document with its table. -/
theorem parse_tomlLines (h : ∀ h ∈ c.heartbeat, h.intervalMs.toNat < 2 ^ 63) :
    Toml.parse? (String.ofList c.tomlLines) = some c.table := by
  have hmark : ∀ d ∈ c.tomlLines.head?, d.toNat ≠ 0xfeff := by
    intro d hd
    unfold tomlLines at hd
    split at hd
    · cases hd; decide
    · cases hd; decide
  exact parse_lines (lines_tomlLines h) hmark (assemble_statements c) (settledDocument_table c)

end SupervisorConfig

end Supervision

import Supervision.Config.Load
import Supervision.Proofs.Config.Rendering
import Supervision.Proofs.Config.Setting

/-!
# Loading a written configuration

A written configuration has a setting for every field that it has, so nothing of the defaults remains where its table is laid
over them (`layer_defaults`), and every setting converts to the field that it was written for (`ofSetting_settings`). Loading a
file that holds a written configuration therefore gives that configuration (`load_toToml`).
-/

namespace Supervision

open Toml

/-! ## Settings -/

/-- The settings of an array are those of its items. -/
theorem Setting.listOfToml_eq_map (origin : String) (items : List Value) :
    Setting.listOfToml origin items = items.map (Setting.ofToml origin) := by
  induction items with
  | nil => rfl
  | cons v items ih => rw [Setting.listOfToml, ih, List.map_cons]

/-- The settings of a table stand under the keys of its values. -/
theorem Setting.entriesOfToml_eq_map (origin : String) (table : Table) :
    Setting.entriesOfToml origin table = table.map fun entry => (entry.1, Setting.ofToml origin entry.2) := by
  induction table with
  | nil => rfl
  | cons entry table ih =>
    obtain ⟨key, v⟩ := entry
    rw [Setting.entriesOfToml, ih, List.map_cons]

theorem Setting.lookup_entriesOfToml (origin : String) (table : Table) (key : String) :
    (Setting.entriesOfToml origin table).lookup key = (table.lookup key).map (Setting.ofToml origin) := by
  induction table with
  | nil => rfl
  | cons entry table ih =>
    obtain ⟨key', v⟩ := entry
    rw [Setting.entriesOfToml, Setting.lookup_cons_eq_ite, Setting.lookup_cons_eq_ite, ih]
    split <;> rfl

/-- The settings of a configuration from a file, over the defaults. -/
def SupervisorConfig.settings (c : SupervisorConfig) (origin : String) : Setting :=
  .table none [
    ("shutdown", .table none (Setting.entriesOfToml origin c.shutdown.table)),
    ("logging", .table none (Setting.entriesOfToml origin c.logging.table)),
    ("heartbeat", .array (some origin) (c.heartbeat.map fun h => Setting.ofToml origin (.table h.table)))]

/-- The section on exiting takes the place of its defaults. -/
theorem ShutdownConfig.overlayAll_table (c : ShutdownConfig) (origin : String) (exitProcess exitCode : Setting) :
    Setting.overlayAll (.table none [("exit_process", exitProcess), ("exit_code", exitCode)])
      (Setting.entriesOfToml origin c.table) = .table none (Setting.entriesOfToml origin c.table) := by
  have hprocess : Text.lowerCase "exit_process" = "exit_process" := by decide +kernel
  have hcode : Text.lowerCase "exit_code" = "exit_code" := by decide +kernel
  rw [Setting.overlayAll_plain]
  · simp [ShutdownConfig.table, Setting.entriesOfToml, Setting.putEntry]
  · simp [ShutdownConfig.table, Setting.entriesOfToml, Setting.ofToml, Setting.NoTable, hprocess, hcode]

/-- The section on logging takes the place of its defaults. -/
theorem LoggingConfig.overlayAll_table (c : LoggingConfig) (origin : String) (level format : Setting) :
    Setting.overlayAll (.table none [("level", level), ("format", format)]) (Setting.entriesOfToml origin c.table) =
      .table none (Setting.entriesOfToml origin c.table) := by
  have hlevel : Text.lowerCase "level" = "level" := by decide +kernel
  have hformat : Text.lowerCase "format" = "format" := by decide +kernel
  have hfile : Text.lowerCase "file" = "file" := by decide +kernel
  rw [Setting.overlayAll_plain]
  · cases hc : c.file <;> simp [LoggingConfig.table, hc, Setting.entriesOfToml, Setting.putEntry]
  · cases hc : c.file <;>
      simp [LoggingConfig.table, hc, Setting.entriesOfToml, Setting.ofToml, Setting.NoTable, hlevel, hformat, hfile]

/-- The settings of a written configuration take the place of all defaults. -/
theorem SupervisorConfig.layer_defaults (c : SupervisorConfig) (origin : String) :
    defaultSettings.layer (Setting.entriesOfToml origin c.table) = c.settings origin := by
  have hshutdown : PlainKey "shutdown" := by decide +kernel
  have hlogging : PlainKey "logging" := by decide +kernel
  have hheartbeat : PlainKey "heartbeat" := by decide +kernel
  have harray : ∀ items, (Setting.array (some origin) items).NoTable := fun _ _ _ h => by cases h
  -- Without heartbeats their empty array is written before the sections, but it still stands behind those of the defaults.
  by_cases hempty : c.heartbeat = []
  · have hentries : Setting.entriesOfToml origin c.table = [("heartbeat", .array (some origin) []),
        ("shutdown", .table (some origin) (Setting.entriesOfToml origin c.shutdown.table)),
        ("logging", .table (some origin) (Setting.entriesOfToml origin c.logging.table))] := by
      simp [table, hempty, Setting.entriesOfToml, Setting.ofToml, Setting.listOfToml]
    rw [hentries, defaultSettings, Setting.layer_plain hheartbeat (harray _), Setting.layer_table hshutdown,
      Setting.layer_table hlogging]
    simp [List.lookup_cons, Setting.putEntry, ShutdownConfig.overlayAll_table, LoggingConfig.overlayAll_table, Setting.layer,
      settings, hempty]
  · have hentries : Setting.entriesOfToml origin c.table = [
        ("shutdown", .table (some origin) (Setting.entriesOfToml origin c.shutdown.table)),
        ("logging", .table (some origin) (Setting.entriesOfToml origin c.logging.table)),
        ("heartbeat", .array (some origin) (c.heartbeat.map fun h => Setting.ofToml origin (.table h.table)))] := by
      simp [table, hempty, Setting.entriesOfToml, Setting.ofToml, Setting.listOfToml_eq_map]
    rw [hentries, defaultSettings, Setting.layer_table hshutdown, Setting.layer_table hlogging,
      Setting.layer_plain hheartbeat (harray _)]
    simp [List.lookup_cons, Setting.putEntry, ShutdownConfig.overlayAll_table, LoggingConfig.overlayAll_table, Setting.layer,
      settings]

/-! ## Conversion -/

namespace Conversion

variable {α : Type} {entries : List (String × Setting)} {key : String} {convert : Setting → Conversion α}

/-- A field that is there converts as its setting does. -/
theorem field_some {s : Setting} {a : α} (hs : entries.lookup key = some s) (ha : convert s = .ok a) :
    field entries key convert = .ok (some a) := by
  rw [field, hs]
  simp only [ha]
  rfl

/-- A field that is missing is no fault. -/
theorem field_none (h : entries.lookup key = none) : field entries key convert = .ok none := by
  rw [field, h]

end Conversion

/-- An integer of 32 bits converts to itself. -/
theorem Setting.toInt32_integer (origin : Option String) (n : Int32) :
    Setting.toInt32 (.scalar origin (.integer n.toInt)) = .ok n := by
  have hlow := n.le_toInt
  have hhigh := n.toInt_lt
  have hwithin : Setting.toIntegerWithin (-0x8000000000000000) 0x7fffffffffffffff (.scalar origin (.integer n.toInt)) =
      .ok n.toInt := if_pos (by omega)
  rw [Setting.toInt32, hwithin]
  show (if _ then _ else _) = _
  rw [if_pos (by omega), Int32.ofInt_toInt]
  rfl

/-- An unsigned integer of 64 bits converts to itself. -/
theorem Setting.toUInt64_integer (origin : Option String) (n : UInt64) :
    Setting.toUInt64 (.scalar origin (.integer n.toNat)) = .ok n := by
  have hhigh := n.toNat_lt
  have hwithin : Setting.toIntegerWithin 0 0xffffffffffffffff (.scalar origin (.integer n.toNat)) = .ok (n.toNat : Int) :=
    if_pos (by omega)
  rw [Setting.toUInt64, hwithin]
  exact congrArg Except.ok UInt64.ofNat_toNat

/-- The settings of the section on exiting convert to it. -/
theorem ShutdownConfig.ofSetting_table (c : ShutdownConfig) (origin : String) :
    ShutdownConfig.ofSetting (.table none (Setting.entriesOfToml origin c.table)) = .ok c := by
  have hprocess : Conversion.field (Setting.entriesOfToml origin c.table) "exit_process" Setting.toBool =
      .ok (some c.exitProcess) := Conversion.field_some rfl rfl
  have hexit : Conversion.field (Setting.entriesOfToml origin c.table) "exit_code" Setting.toInt32 = .ok (some c.exitCode) :=
    Conversion.field_some rfl (Setting.toInt32_integer _ _)
  rw [ShutdownConfig.ofSetting, hprocess, hexit]
  rfl

/-- The settings of the section on logging convert to it. -/
theorem LoggingConfig.ofSetting_table (c : LoggingConfig) (origin : String) :
    LoggingConfig.ofSetting (.table none (Setting.entriesOfToml origin c.table)) = .ok c := by
  have hlevel : Conversion.field (Setting.entriesOfToml origin c.table) "level" Setting.toText = .ok (some c.level) :=
    Conversion.field_some rfl rfl
  have hformat : Conversion.field (Setting.entriesOfToml origin c.table) "format" Setting.toText = .ok (some c.format) :=
    Conversion.field_some rfl rfl
  have hfile : Conversion.field (Setting.entriesOfToml origin c.table) "file" Setting.toText? = .ok (c.file.map some) := by
    unfold LoggingConfig.table
    cases c.file with
    | none => exact Conversion.field_none rfl
    | some file => exact Conversion.field_some rfl rfl
  rw [LoggingConfig.ofSetting, hlevel, hformat, hfile]
  cases c with
  | mk level format file => cases file <;> rfl

/-- The settings of a heartbeat convert to it. -/
theorem HeartbeatConfig.ofSetting_table (c : HeartbeatConfig) (origin : String) :
    HeartbeatConfig.ofSetting (Setting.ofToml origin (.table c.table)) = .ok c := by
  have hname : Conversion.field (Setting.entriesOfToml origin c.table) "name" Setting.toText = .ok (some c.name) :=
    Conversion.field_some rfl rfl
  have hperiod : Conversion.field (Setting.entriesOfToml origin c.table) "interval_ms" Setting.toUInt64 =
      .ok (some c.intervalMs) := Conversion.field_some rfl (Setting.toUInt64_integer _ _)
  rw [Setting.ofToml, HeartbeatConfig.ofSetting, hname, hperiod]
  rfl

/-- Settings that convert to heartbeats one by one convert to them as a list, in their order. -/
theorem HeartbeatConfig.listFrom_ok {items : List Setting} {heartbeats : List HeartbeatConfig}
    (h : List.Forall₂ (fun s c => HeartbeatConfig.ofSetting s = .ok c) items heartbeats) :
    ∀ i, HeartbeatConfig.listFrom i items = .ok heartbeats := by
  induction h with
  | nil => intro i; rfl
  | cons hfirst _ ih =>
    intro i
    rw [HeartbeatConfig.listFrom, hfirst, ih]
    rfl

/-- The settings of heartbeats convert to them, in their order. -/
theorem HeartbeatConfig.listFrom_tables (heartbeats : List HeartbeatConfig) (origin : String) (i : Nat) :
    HeartbeatConfig.listFrom i (heartbeats.map fun h => Setting.ofToml origin (.table h.table)) = .ok heartbeats :=
  HeartbeatConfig.listFrom_ok
    (List.forall₂_map_left_iff.2 (List.forall₂_same.2 fun h _ => h.ofSetting_table origin)) i

/-- The settings of a configuration convert to it. -/
theorem SupervisorConfig.ofSetting_settings (c : SupervisorConfig) (origin : String) :
    ofSetting (c.settings origin) = .ok c := by
  have hshutdown : Conversion.field (c.settings origin).entries "shutdown" ShutdownConfig.ofSetting = .ok (some c.shutdown) :=
    Conversion.field_some rfl (c.shutdown.ofSetting_table origin)
  have hlogging : Conversion.field (c.settings origin).entries "logging" LoggingConfig.ofSetting = .ok (some c.logging) :=
    Conversion.field_some rfl (c.logging.ofSetting_table origin)
  have hheartbeat : Conversion.field (c.settings origin).entries "heartbeat" HeartbeatConfig.listOfSetting =
      .ok (some c.heartbeat) := Conversion.field_some rfl (HeartbeatConfig.listFrom_tables c.heartbeat origin 0)
  rw [ofSetting, hshutdown, hlogging, hheartbeat]
  rfl

/-! ## Files -/

/-- A variable whose name does not begin with the mark, in lower case, has no setting. -/
theorem Environment.settings_foreign {name : String} (value : String) (environment : List (String × String))
    (h : ¬mark.toList <+: (Text.lowerCase name).toList) : settings ((name, value) :: environment) = settings environment := by
  have hkey : key? name = none := if_neg fun hmark => h (List.isPrefixOf_iff_prefix.1 hmark)
  simp only [settings, List.filterMap_cons, hkey, Option.map_none]

/-- Variables whose names do not begin with the mark, in lower case, have no settings. -/
theorem Environment.settings_nil {environment : List (String × String)}
    (h : ∀ v ∈ environment, ¬mark.toList <+: (Text.lowerCase v.1).toList) : settings environment = [] := by
  induction environment with
  | nil => rfl
  | cons v environment ih =>
    obtain ⟨hv, hrest⟩ := List.forall_mem_cons.1 h
    rw [settings_foreign v.2 environment hv, ih hrest]

/-- The settings of the file that a path means are those of the document that it holds. -/
theorem ConfigFile.settings_found {tree : FileTree} {path found text : String} {table : Table}
    (hfound : find? tree path = some (found, text.toUTF8)) (htable : Toml.parse? text = some table) :
    settings tree path = .ok (Setting.entriesOfToml (FilePath.normal found) table) := by
  have htext : String.fromUTF8? text.toUTF8 = some text := dif_pos text.isValidUTF8
  rw [settings, hfound]
  simp only [Option.bind_some, htext, Option.map_some, htable]

/-- A path to a TOML file means that file. -/
theorem ConfigFile.find?_file {tree : FileTree} {path : String} {bytes : ByteArray} (hfile : tree.file? path = some bytes)
    (htoml : (FilePath.fileName? path).bind FilePath.extension? = some "toml") : find? tree path = some (path, bytes) := by
  rw [find?, hfile]
  exact if_pos htoml

/-- The settings of a TOML file are those of the document that it holds. -/
theorem ConfigFile.settings_document {tree : FileTree} {path text : String} {table : Table}
    (hfile : tree.file? path = some text.toUTF8) (htoml : (FilePath.fileName? path).bind FilePath.extension? = some "toml")
    (htable : Toml.parse? text = some table) :
    settings tree path = .ok (Setting.entriesOfToml (FilePath.normal path) table) :=
  settings_found (find?_file hfile htoml) htable

namespace SupervisorConfig

/-- The table of a configuration over the defaults gives the configuration. -/
theorem ofLayers_table (c : SupervisorConfig) (origin : String) {environment : List (String × String)}
    (h : ∀ v ∈ environment, ¬Environment.mark.toList <+: (Text.lowerCase v.1).toList) :
    ofLayers (Setting.entriesOfToml origin c.table) environment = .ok c := by
  have hlayers : (defaultSettings.layer (Setting.entriesOfToml origin c.table)).layer (Environment.settings environment) =
      c.settings origin := by
    rw [Environment.settings_nil h, layer_defaults]
    rfl
  rw [ofLayers, hlayers, ofSetting_settings]

/-- A configuration is written unless an interval is beyond the integers of TOML. -/
theorem toToml_error {c : SupervisorConfig} :
    (∃ e, c.toToml = .error e) ↔ ∃ h ∈ c.heartbeat, 2 ^ 63 - 1 < h.intervalMs.toNat := by
  unfold toToml
  split
  · rename_i hall
    refine ⟨fun ⟨e, he⟩ => (by cases he), fun ⟨h, hmem, hh⟩ => ?_⟩
    have hlt := of_decide_eq_true (List.all_eq_true.1 hall h hmem)
    omega
  · rename_i hall
    refine ⟨fun _ => ?_, fun _ => ⟨_, rfl⟩⟩
    by_contra hnone
    refine hall (List.all_eq_true.2 fun h hmem => decide_eq_true ?_)
    have hh : ¬2 ^ 63 - 1 < h.intervalMs.toNat := fun hlt => hnone ⟨h, hmem, hlt⟩
    omega

/-- What is written for a configuration are its lines. -/
theorem toToml_ok {c : SupervisorConfig} {text : String} (h : c.toToml = .ok text) :
    text = String.ofList c.tomlLines ∧ ∀ h ∈ c.heartbeat, h.intervalMs.toNat < 2 ^ 63 := by
  unfold toToml at h
  split at h
  · rename_i hall
    cases h
    refine ⟨rfl, fun h hmem => ?_⟩
    have hlt := of_decide_eq_true (List.all_eq_true.1 hall h hmem)
    omega
  · cases h

/-- A configuration is refused exactly if an interval is beyond the integers of TOML. What is written for it otherwise loads as
that very configuration, from any TOML file that holds it, if no variable of the environment belongs to the configuration. -/
theorem load_toToml (c : SupervisorConfig) :
    ((∃ e, c.toToml = .error e) ↔ ∃ h ∈ c.heartbeat, 2 ^ 63 - 1 < h.intervalMs.toNat) ∧
      ∀ text, c.toToml = .ok text → ∀ (tree : FileTree) (path : String) (environment : List (String × String)),
        tree.file? path = some text.toUTF8 → (FilePath.fileName? path).bind FilePath.extension? = some "toml" →
        (∀ v ∈ environment, ¬Environment.mark.toList <+: (Text.lowerCase v.1).toList) →
        load tree path environment = .ok c := by
  refine ⟨toToml_error, fun text htext tree path environment hfile htoml henvironment => ?_⟩
  obtain ⟨rfl, hinterval⟩ := toToml_ok htext
  rw [load, ConfigFile.settings_document hfile htoml (parse_tomlLines hinterval)]
  exact ofLayers_table c (FilePath.normal path) henvironment

/-! ## A rehearsal -/

namespace Rehearsal

/-- A configuration with quotes, backslashes and lines in its texts. -/
def config : SupervisorConfig where
  shutdown := ⟨false, -7⟩
  logging := ⟨"C:\\temp", "\"plain\"", some "'''\n\"\"\"\t"⟩
  heartbeat := [⟨"it's\n\"fine\"", 9223372036854775807⟩, ⟨"", 0⟩]

/-- What is written for it. -/
def text : String :=
  String.ofList config.tomlLines

theorem load_toToml_rehearsal :
    config.toToml = .ok text ∧
      load (.ofFile "etc/supervisor.toml" text.toUTF8) "etc/supervisor.toml" [("HOME", "/root")] = .ok config := by
  have htext : config.toToml = .ok text := rfl
  refine ⟨htext, (load_toToml config).2 text htext _ _ _ rfl (by decide +kernel) ?_⟩
  intro v hv
  cases List.mem_singleton.1 hv
  decide +kernel

end Rehearsal

end SupervisorConfig

end Supervision

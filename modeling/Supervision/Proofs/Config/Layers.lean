import Supervision.Proofs.Config.Sections

/-!
# The layers of a configuration

Field by field the environment wins over the file, and the file over the defaults. Each variable of a field changes that field
alone (`Setting.Holds.set`), so the settings that loading converts are known in every field (`Setting.Holds.layer_environment`).
They convert exactly if the two texts for how to exit do (`load_environment_over_file_over_defaults`); any text is a level, a
format or a file.
-/

namespace Supervision

open Toml

/-! ## The variables of the fields -/

namespace ConfigField

/-- The variable of the environment for a field. -/
def variableName : ConfigField → String
  | exitProcess => "SUPERVISOR__SHUTDOWN__EXIT_PROCESS"
  | exitCode => "SUPERVISOR__SHUTDOWN__EXIT_CODE"
  | level => "SUPERVISOR__LOGGING__LEVEL"
  | format => "SUPERVISOR__LOGGING__FORMAT"
  | file => "SUPERVISOR__LOGGING__FILE"

/-- The path that the variable of a field stands for leads to the field. -/
theorem path_variableName (f : ConfigField) :
    (Environment.key? f.variableName).map SettingPath.ofKey = some ⟨f.sectionKey, [.child f.key]⟩ := by
  cases f <;> decide +kernel

/-- The variable of a field belongs to the configuration. -/
theorem mark_variableName (f : ConfigField) : Environment.mark.toList <+: (Text.lowerCase f.variableName).toList := by
  cases f <;> decide +kernel

theorem variableName_inj {f g : ConfigField} : f.variableName = g.variableName ↔ f = g := by
  cases f <;> cases g <;> decide

theorem key_inj {f g : ConfigField} : f.key = g.key ↔ f = g := by
  cases f <;> cases g <;> decide

theorem lowerCase_sectionKey (f : ConfigField) : Text.lowerCase f.sectionKey = f.sectionKey := by
  cases f <;> decide +kernel

theorem lowerCase_key (f : ConfigField) : Text.lowerCase f.key = f.key := by
  cases f <;> decide +kernel

end ConfigField

/-! ## The environment -/

namespace Environment

/-- The setting that a variable gives. -/
def setting (value : String) : Setting :=
  .scalar (some "the environment") (.text value)

/-- The variable of a field has a setting for that field. -/
theorem settings_field (f : ConfigField) (v : String) (environment : List (String × String)) :
    ∃ key, SettingPath.ofKey key = ⟨f.sectionKey, [.child f.key]⟩ ∧
      settings ((f.variableName, v) :: environment) = (key, setting v) :: settings environment := by
  obtain ⟨key, hkey, hpath⟩ := Option.map_eq_some_iff.1 f.path_variableName
  refine ⟨key, hpath, ?_⟩
  simp only [settings, List.filterMap_cons, hkey, Option.map_some]
  rfl

end Environment

namespace Setting.Holds

variable {s : Setting} {value : ConfigField → Option Setting} {heartbeat : Option (List HeartbeatConfig)}

/-- A variable changes its field alone. -/
theorem set (h : s.Holds value heartbeat) (f : ConfigField) (v : String) :
    (SettingPath.set ⟨f.sectionKey, [.child f.key]⟩ (Environment.setting v) s).Holds
      (Function.update value f (some (Environment.setting v))) heartbeat := by
  obtain ⟨t, ht, -⟩ := h.tables f
  -- The section of the field is another one afterwards, all others are as they were.
  have hlookup : ∀ k, (SettingPath.set ⟨f.sectionKey, [.child f.key]⟩ (Environment.setting v) s).entries.lookup k =
      if k = f.sectionKey then some (overlay f.key t (Environment.setting v)) else s.entries.lookup k := by
    intro k
    rw [SettingPath.set, SettingPath.setFrom, alterEntry, f.lowerCase_sectionKey, entries_withEntries, lookup_putEntry, ht]
    rfl
  refine ⟨fun g => ?_, fun g => ?_, ?_⟩
  · rw [hlookup]
    by_cases hsection : g.sectionKey = f.sectionKey
    · rw [if_pos hsection, overlay_eq f.lowerCase_key]
      exact ⟨_, rfl, isTable_withEntries _ _⟩
    · rw [if_neg hsection]
      exact h.tables g
  · rw [hlookup]
    by_cases hsection : g.sectionKey = f.sectionKey
    · rw [if_pos hsection, Option.bind_some, lookup_overlay f.lowerCase_key]
      by_cases hgf : g = f
      · rw [if_pos (ConfigField.key_inj.2 hgf), hgf, Function.update_self]
        rfl
      · rw [if_neg fun hkey => hgf (ConfigField.key_inj.1 hkey), Function.update_of_ne hgf, ← h.fields g, hsection, ht]
        rfl
    · have hgf : g ≠ f := fun hgf => hsection (congrArg ConfigField.sectionKey hgf)
      rw [if_neg hsection, Function.update_of_ne hgf, h.fields g]
  · have hsection : "heartbeat" ≠ f.sectionKey := by cases f <;> decide
    rw [Conversion.field, hlookup, if_neg hsection]
    exact h.heartbeat

/-- Each variable of the environment wins over what was in its field. -/
theorem layer_environment {environment : List (String × String)} (hdistinct : (environment.map (·.1)).Nodup)
    (hvariables : ∀ v ∈ environment, Environment.mark.toList <+: (Text.lowerCase v.1).toList →
      ∃ f : ConfigField, v.1 = f.variableName) (h : s.Holds value heartbeat) :
    (s.layer (Environment.settings environment)).Holds
      (fun f => ((environment.lookup f.variableName).map Environment.setting).or (value f)) heartbeat := by
  induction environment generalizing s value with
  | nil => exact h
  | cons v environment ih =>
    obtain ⟨name, v⟩ := v
    obtain ⟨hfresh, hothers⟩ := List.nodup_cons.1 hdistinct
    obtain ⟨hname, hrest⟩ := List.forall_mem_cons.1 hvariables
    by_cases hmark : Environment.mark.toList <+: (Text.lowerCase name).toList
    · obtain ⟨f, rfl⟩ := hname hmark
      obtain ⟨key, hpath, hsettings⟩ := Environment.settings_field f v environment
      have hvalue : (fun g : ConfigField => ((environment.lookup g.variableName).map Environment.setting).or
          (Function.update value f (some (Environment.setting v)) g)) =
          fun g => ((List.lookup g.variableName ((f.variableName, v) :: environment)).map Environment.setting).or (value g) := by
        funext g
        rw [lookup_cons_eq_ite]
        by_cases hgf : g = f
        · rw [hgf, lookup_eq_none hfresh, Function.update_self, if_pos rfl]
          rfl
        · rw [Function.update_of_ne hgf, if_neg fun h => hgf (ConfigField.variableName_inj.1 h)]
      rw [hsettings, layer_cons, hpath, ← hvalue]
      exact ih hothers hrest (h.set f v)
    · have hvalue : ∀ f : ConfigField, List.lookup f.variableName ((name, v) :: environment) =
          environment.lookup f.variableName := by
        intro f
        have hne : f.variableName ≠ name := by
          rintro rfl
          exact hmark f.mark_variableName
        rw [lookup_cons_eq_ite, if_neg hne]
      rw [Environment.settings_foreign v environment hmark]
      simp only [hvalue]
      exact ih hothers hrest h

end Setting.Holds

/-! ## Conversion -/

/-- The truth value that a word stands for. -/
def boolOfWord? (s : String) : Option Bool :=
  let word := Text.lowerCase s
  if word ∈ ["1", "true", "on", "yes"] then some true
  else if word ∈ ["0", "false", "off", "no"] then some false
  else none

/-- The integer of 32 bits that a word stands for. -/
def int32OfWord? (s : String) : Option Int32 :=
  (Setting.integerOfWord? (-0x80000000) 0x7fffffff s).map Int32.ofInt

namespace Conversion

variable {α β : Type}

theorem toOption_bind (c : Conversion α) (f : α → Conversion β) :
    (c >>= f).toOption = c.toOption.bind fun a => (f a).toOption := by
  cases c <;> rfl

/-- A text converts to a truth value if it is one of the words for them. -/
theorem toOption_toBool (s : String) : (Setting.toBool (Environment.setting s)).toOption = boolOfWord? s := by
  unfold boolOfWord? Environment.setting
  simp only [Setting.toBool]
  split
  · rfl
  · split <;> rfl

/-- Of the integers of 64 bits that words stand for, those of 32 bits are the ones that words stand for within 32 bits. -/
theorem integerOfWord?_narrow (s : String) :
    ((Setting.integerOfWord? (-0x8000000000000000) 0x7fffffffffffffff s).bind fun n =>
      if -0x80000000 ≤ n ∧ n < 0x80000000 then some n else none) = Setting.integerOfWord? (-0x80000000) 0x7fffffff s := by
  simp only [Setting.integerOfWord?]
  split
  · rfl
  split
  · rfl
  rw [Option.bind_assoc]
  refine congrArg (Setting.integerOfText? true s).bind (funext fun n => ?_)
  by_cases hn : -0x80000000 ≤ n ∧ n ≤ 0x7fffffff
  · rw [if_pos hn, if_pos (by omega), Option.bind_some, if_pos (by omega)]
  · rw [if_neg hn]
    split
    · rw [Option.bind_some, if_neg (by omega)]
    · rfl

/-- A text converts to an integer of 32 bits if it stands for one. -/
theorem toOption_toInt32 (s : String) : (Setting.toInt32 (Environment.setting s)).toOption = int32OfWord? s := by
  have hwithin : ∀ low high, (Setting.toIntegerWithin low high (Environment.setting s)).toOption =
      Setting.integerOfWord? low high s := by
    intro low high
    unfold Setting.toIntegerWithin Environment.setting
    cases h : Setting.integerOfWord? low high s <;> simp only [h] <;> rfl
  rw [Setting.toInt32, toOption_bind, hwithin, int32OfWord?, ← integerOfWord?_narrow, Option.map_bind]
  refine congrArg (Option.bind _) (funext fun n => ?_)
  by_cases hn : -0x80000000 ≤ n ∧ n < 0x80000000
  · rw [if_pos hn, Function.comp_apply, if_pos hn]
    rfl
  · rw [if_neg hn, Function.comp_apply, if_neg hn]
    rfl

/-- What a setting that may be missing converts to, if it converts. -/
def converted? (value : Option Setting) (convert : Setting → Conversion α) : Option (Option α) :=
  value.elim (some none) fun s => (convert s).toOption.map some

/-- A field converts as the setting under its key does. -/
theorem toOption_field (entries : List (String × Setting)) (key : String) (convert : Setting → Conversion α) :
    (field entries key convert).toOption = converted? (entries.lookup key) convert := by
  rw [field]
  cases entries.lookup key with
  | none => rfl
  | some s =>
    simp only [converted?, Option.elim_some]
    cases convert s <;> rfl

end Conversion

/-- What a field comes to with a variable over it: what the text of the variable stands for, or what is below where the variable
is not set. -/
def overridden {α : Type} (text? : Option String) (read? : String → Option α) (below : α) : Option α :=
  text?.elim (some below) read?

/-- A field comes to something exactly if the text of its variable stands for something, where the variable is set. -/
theorem exists_overridden {α : Type} {text? : Option String} {read? : String → Option α} {below : α} :
    (∃ a, overridden text? read? below = some a) ↔ ∀ s, text? = some s → ∃ a, read? s = some a := by
  cases text? with
  | none => simp [overridden]
  | some s => simp [overridden]

/-- The setting of a field when the environment is laid over a file, and the file over the defaults. -/
def ConfigDocument.layered (d : ConfigDocument) (origin : String) (environment : List (String × String)) (f : ConfigField) :
    Option Setting :=
  ((environment.lookup f.variableName).map Environment.setting).or
    (((d.scalar? f).map (.scalar (some origin))).or (f.default?.map (.scalar none)))

/-- A field with a default comes to what the text of its variable stands for; without the variable, to what the file says, or
else to the default. -/
theorem ConfigDocument.converted_layered {α : Type} {d : ConfigDocument} {f : ConfigField} {convert : Setting → Conversion α}
    {scalar : α → Scalar} {read? : String → Option α} {a? : Option α} {a : α}
    (hscalar : ∀ origin b, convert (.scalar origin (scalar b)) = .ok b)
    (hread : ∀ s, (convert (Environment.setting s)).toOption = read? s) (hfile : d.scalar? f = a?.map scalar)
    (hdefault : f.default? = some (scalar a)) (origin : String) (environment : List (String × String)) :
    Conversion.converted? (d.layered origin environment f) convert =
      (overridden (environment.lookup f.variableName) read? (a?.getD a)).map some := by
  rw [layered, hfile, hdefault]
  cases environment.lookup f.variableName with
  | some s => exact congrArg (Option.map some) (hread s)
  | none => cases a? <;> simp [Conversion.converted?, overridden, hscalar, Except.toOption]

/-- A text with a default comes to the text of its variable, or else to what the file says, or else to the default. -/
theorem ConfigDocument.converted_text {d : ConfigDocument} {f : ConfigField} {a? : Option String} {a : String}
    (hfile : d.scalar? f = a?.map .text) (hdefault : f.default? = some (.text a)) (origin : String)
    (environment : List (String × String)) :
    Conversion.converted? (d.layered origin environment f) Setting.toText =
      some (some ((environment.lookup f.variableName).getD (a?.getD a))) := by
  rw [converted_layered (fun _ _ => rfl) (fun _ => rfl) hfile hdefault]
  cases environment.lookup f.variableName <;> rfl

/-- The file of the log has no default. -/
theorem ConfigDocument.converted_file (d : ConfigDocument) (origin : String) (environment : List (String × String)) :
    Conversion.converted? (d.layered origin environment .file) Setting.toText? =
      some (((environment.lookup ConfigField.file.variableName).or d.file).map some) := by
  rw [layered, scalar?]
  cases environment.lookup ConfigField.file.variableName with
  | some s => rfl
  | none => cases d.file <;> rfl

/-- The section on exiting converts exactly if its fields do. -/
theorem ShutdownConfig.toOption_ofSetting {t : Setting} (ht : t.IsTable) :
    (ShutdownConfig.ofSetting t).toOption =
      (Conversion.converted? (t.entries.lookup "exit_process") Setting.toBool).bind fun exitProcess =>
      (Conversion.converted? (t.entries.lookup "exit_code") Setting.toInt32).bind fun exitCode =>
      some ⟨exitProcess.getD true, exitCode.getD 0⟩ := by
  obtain ⟨origin, ht⟩ := ht
  rw [ht, ShutdownConfig.ofSetting]
  simp only [Conversion.toOption_bind, Conversion.toOption_field]
  rfl

/-- The section on logging converts exactly if its fields do. -/
theorem LoggingConfig.toOption_ofSetting {t : Setting} (ht : t.IsTable) :
    (LoggingConfig.ofSetting t).toOption =
      (Conversion.converted? (t.entries.lookup "level") Setting.toText).bind fun level =>
      (Conversion.converted? (t.entries.lookup "format") Setting.toText).bind fun format =>
      (Conversion.converted? (t.entries.lookup "file") Setting.toText?).bind fun file =>
      some ⟨level.getD "info", format.getD "pretty", file.join⟩ := by
  obtain ⟨origin, ht⟩ := ht
  rw [ht, LoggingConfig.ofSetting]
  simp only [Conversion.toOption_bind, Conversion.toOption_field]
  rfl

/-- Settings convert to a configuration exactly if all their fields do. -/
theorem Setting.Holds.toOption_ofSetting {s : Setting} {value : ConfigField → Option Setting}
    {heartbeat : Option (List HeartbeatConfig)} (h : s.Holds value heartbeat) :
    (SupervisorConfig.ofSetting s).toOption =
      (Conversion.converted? (value .exitProcess) toBool).bind fun exitProcess =>
      (Conversion.converted? (value .exitCode) toInt32).bind fun exitCode =>
      (Conversion.converted? (value .level) toText).bind fun level =>
      (Conversion.converted? (value .format) toText).bind fun format =>
      (Conversion.converted? (value .file) toText?).bind fun file =>
      some ⟨⟨exitProcess.getD true, exitCode.getD 0⟩, ⟨level.getD "info", format.getD "pretty", file.join⟩,
        heartbeat.getD []⟩ := by
  obtain ⟨shutdown, hshutdown, hshutdownTable⟩ := h.tables .exitProcess
  obtain ⟨logging, hlogging, hloggingTable⟩ := h.tables .level
  have hexit : (Conversion.field s.entries "shutdown" ShutdownConfig.ofSetting).toOption =
      (ShutdownConfig.ofSetting shutdown).toOption.map some := by
    rw [Conversion.toOption_field]
    exact congrArg (Conversion.converted? · ShutdownConfig.ofSetting) hshutdown
  have hlog : (Conversion.field s.entries "logging" LoggingConfig.ofSetting).toOption =
      (LoggingConfig.ofSetting logging).toOption.map some := by
    rw [Conversion.toOption_field]
    exact congrArg (Conversion.converted? · LoggingConfig.ofSetting) hlogging
  rw [ShutdownConfig.toOption_ofSetting hshutdownTable] at hexit
  rw [LoggingConfig.toOption_ofSetting hloggingTable] at hlog
  rw [SupervisorConfig.ofSetting, Conversion.toOption_bind, hexit, ← h.lookup_key (f := .exitProcess) hshutdown,
    ← h.lookup_key (f := .exitCode) hshutdown, ← h.lookup_key (f := .level) hlogging, ← h.lookup_key (f := .format) hlogging,
    ← h.lookup_key (f := .file) hlogging]
  simp only [Conversion.toOption_bind, hlog, h.heartbeat, Option.map_bind, Option.bind_assoc, Function.comp_apply,
    Option.map_some, Option.bind_some]
  rfl

/-! ## Loading -/

namespace SupervisorConfig

/-- The configuration of the defaults alone. -/
def defaults : SupervisorConfig := {}

/-- The configuration with each field from the environment if it is there, else from the file, else from the defaults. How to
exit is given. -/
def ofSources (d : ConfigDocument) (environment : List (String × String)) (exitProcess : Bool) (exitCode : Int32) :
    SupervisorConfig where
  shutdown := ⟨exitProcess, exitCode⟩
  logging := {
    level := (environment.lookup ConfigField.level.variableName).getD (d.level.getD defaults.logging.level)
    format := (environment.lookup ConfigField.format.variableName).getD (d.format.getD defaults.logging.format)
    file := (environment.lookup ConfigField.file.variableName).or (d.file.or defaults.logging.file) }
  heartbeat := (d.heartbeat.getD []).map HeartbeatSection.config

variable {tree : FileTree} {path found text : String} {table : Table} {d : ConfigDocument} {environment : List (String × String)}

/-- The settings of all sources convert exactly if the texts of the variables for how to exit do. -/
theorem toOption_ofSetting (hd : d.WrittenAs table) (origin : String) (hdistinct : (environment.map (·.1)).Nodup)
    (hvariables : ∀ v ∈ environment, Environment.mark.toList <+: (Text.lowerCase v.1).toList →
      ∃ f : ConfigField, v.1 = f.variableName) :
    (ofSetting ((defaultSettings.layer (Setting.entriesOfToml origin table)).layer (Environment.settings environment))).toOption =
      (overridden (environment.lookup ConfigField.exitProcess.variableName) boolOfWord?
        (d.exitProcess.getD defaults.shutdown.exitProcess)).bind fun exitProcess =>
      (overridden (environment.lookup ConfigField.exitCode.variableName) int32OfWord?
        (d.exitCode.getD defaults.shutdown.exitCode)).bind fun exitCode =>
      some (ofSources d environment exitProcess exitCode) := by
  have hholds : ((defaultSettings.layer (Setting.entriesOfToml origin table)).layer (Environment.settings environment)).Holds
      (d.layered origin environment) ((d.heartbeat.map fun sections => sections.map HeartbeatSection.config).or none) :=
    (holds_defaultSettings.layer_document hd origin).layer_environment hdistinct hvariables
  have hexitProcess : Conversion.converted? (d.layered origin environment .exitProcess) Setting.toBool =
      (overridden (environment.lookup ConfigField.exitProcess.variableName) boolOfWord?
        (d.exitProcess.getD defaults.shutdown.exitProcess)).map some :=
    ConfigDocument.converted_layered (fun _ _ => rfl) Conversion.toOption_toBool rfl rfl origin environment
  have hexitCode : Conversion.converted? (d.layered origin environment .exitCode) Setting.toInt32 =
      (overridden (environment.lookup ConfigField.exitCode.variableName) int32OfWord?
        (d.exitCode.getD defaults.shutdown.exitCode)).map some :=
    ConfigDocument.converted_layered Setting.toInt32_integer Conversion.toOption_toInt32 rfl rfl origin environment
  have hlevel : Conversion.converted? (d.layered origin environment .level) Setting.toText = _ :=
    ConfigDocument.converted_text rfl rfl origin environment
  have hformat : Conversion.converted? (d.layered origin environment .format) Setting.toText = _ :=
    ConfigDocument.converted_text rfl rfl origin environment
  have hfile : (((environment.lookup ConfigField.file.variableName).or d.file).map some).join =
      (environment.lookup ConfigField.file.variableName).or (d.file.or defaults.logging.file) := by
    cases environment.lookup ConfigField.file.variableName <;> cases d.file <;> rfl
  have hheartbeat : ((d.heartbeat.map fun sections => sections.map HeartbeatSection.config).or none).getD [] =
      (d.heartbeat.getD []).map HeartbeatSection.config := by
    cases d.heartbeat <;> rfl
  rw [hholds.toOption_ofSetting, hexitProcess, hexitCode, hlevel, hformat, d.converted_file]
  simp only [Option.bind_map, Function.comp_def, Option.bind_some, Option.getD_some, hfile, hheartbeat]
  rfl

/-- What fails to load fails for a fault of the configuration. -/
theorem load_error {e : SupervisorError} (h : load tree path environment = .error e) : ∃ fault, e = .config fault := by
  unfold load ConfigFile.settings ofLayers at h
  split at h
  · split at h
    · cases h
    · cases h
      exact ⟨_, rfl⟩
  · rename_i hsettings
    split at hsettings
    · cases hsettings
    · split at hsettings
      · cases hsettings
        cases h
        exact ⟨_, rfl⟩
      · cases hsettings

/-- A configuration that loads gives what the settings of the file, with the variables over it, convert to. -/
theorem toOption_load (hfound : ConfigFile.find? tree path = some (found, text.toUTF8)) (htable : Toml.parse? text = some table) :
    (load tree path environment).toOption = (ofSetting ((defaultSettings.layer
      (Setting.entriesOfToml (FilePath.normal found) table)).layer (Environment.settings environment))).toOption := by
  rw [load, ConfigFile.settings_found hfound htable]
  simp only [ofLayers]
  split <;> simp_all [Except.toOption]

/-- What loads is what the sources give, with what the two fields for how to exit come to. -/
theorem load_ok_iff (hfound : ConfigFile.find? tree path = some (found, text.toUTF8)) (htable : Toml.parse? text = some table)
    (hd : d.WrittenAs table) (hdistinct : (environment.map (·.1)).Nodup)
    (hvariables : ∀ v ∈ environment, Environment.mark.toList <+: (Text.lowerCase v.1).toList →
      ∃ f : ConfigField, v.1 = f.variableName) (c : SupervisorConfig) :
    load tree path environment = .ok c ↔ ∃ exitProcess exitCode,
      overridden (environment.lookup ConfigField.exitProcess.variableName) boolOfWord?
        (d.exitProcess.getD defaults.shutdown.exitProcess) = some exitProcess ∧
      overridden (environment.lookup ConfigField.exitCode.variableName) int32OfWord?
        (d.exitCode.getD defaults.shutdown.exitCode) = some exitCode ∧
      c = ofSources d environment exitProcess exitCode := by
  have hload := (toOption_load hfound htable).trans (toOption_ofSetting hd (FilePath.normal found) hdistinct hvariables)
  have hok : load tree path environment = .ok c ↔ (load tree path environment).toOption = some c := by
    cases load tree path environment <;> simp [Except.toOption]
  rw [hok, hload]
  simp only [Option.bind_eq_some_iff, Option.some.injEq]
  constructor
  · rintro ⟨exitProcess, hprocess, exitCode, hcode, rfl⟩
    exact ⟨exitProcess, exitCode, hprocess, hcode, rfl⟩
  · rintro ⟨exitProcess, exitCode, hprocess, hcode, rfl⟩
    exact ⟨exitProcess, hprocess, exitCode, hcode, rfl⟩

/-- A configuration has each field from the environment, or else from the file, or else from the defaults, and the heartbeats of
the file. -/
structure Sourced (d : ConfigDocument) (environment : List (String × String)) (c : SupervisorConfig) : Prop where
  exitProcess : overridden (environment.lookup "SUPERVISOR__SHUTDOWN__EXIT_PROCESS") boolOfWord?
    (d.exitProcess.getD defaults.shutdown.exitProcess) = some c.shutdown.exitProcess
  exitCode : overridden (environment.lookup "SUPERVISOR__SHUTDOWN__EXIT_CODE") int32OfWord?
    (d.exitCode.getD defaults.shutdown.exitCode) = some c.shutdown.exitCode
  level : c.logging.level = (environment.lookup "SUPERVISOR__LOGGING__LEVEL").getD (d.level.getD defaults.logging.level)
  format : c.logging.format = (environment.lookup "SUPERVISOR__LOGGING__FORMAT").getD (d.format.getD defaults.logging.format)
  file : c.logging.file = (environment.lookup "SUPERVISOR__LOGGING__FILE").or (d.file.or defaults.logging.file)
  heartbeat : c.heartbeat = (d.heartbeat.getD []).map HeartbeatSection.config

/-- A file loads, with an environment that has no other variables of the configuration than those for its fields, exactly if the
texts of the variables for how to exit stand for a truth value and for an integer of 32 bits, where they are set. What it loads
as has each field from the environment, or else from the file, or else from the defaults. What fails fails for a fault of the
configuration. -/
theorem load_environment_over_file_over_defaults (hfound : ConfigFile.find? tree path = some (found, text.toUTF8))
    (htable : Toml.parse? text = some table) (hd : d.WrittenAs table) (hdistinct : (environment.map (·.1)).Nodup)
    (hvariables : ∀ v ∈ environment, Environment.mark.toList <+: (Text.lowerCase v.1).toList →
      ∃ f : ConfigField, v.1 = f.variableName) :
    ((∃ c, load tree path environment = .ok c) ↔
      (∀ s, environment.lookup "SUPERVISOR__SHUTDOWN__EXIT_PROCESS" = some s → ∃ b, boolOfWord? s = some b) ∧
      (∀ s, environment.lookup "SUPERVISOR__SHUTDOWN__EXIT_CODE" = some s → ∃ n, int32OfWord? s = some n)) ∧
    (∀ c, load tree path environment = .ok c → Sourced d environment c) ∧
    (∀ e, load tree path environment = .error e → ∃ fault, e = .config fault) := by
  have hok := load_ok_iff hfound htable hd hdistinct hvariables
  refine ⟨⟨?_, ?_⟩, ?_, fun e => load_error⟩
  · rintro ⟨c, hc⟩
    obtain ⟨exitProcess, exitCode, hprocess, hcode, -⟩ := (hok c).1 hc
    exact ⟨exists_overridden.1 ⟨exitProcess, hprocess⟩, exists_overridden.1 ⟨exitCode, hcode⟩⟩
  · rintro ⟨hprocess, hcode⟩
    obtain ⟨exitProcess, hprocess⟩ := exists_overridden.2 hprocess
    obtain ⟨exitCode, hcode⟩ := exists_overridden.2 hcode
    exact ⟨_, (hok _).2 ⟨exitProcess, exitCode, hprocess, hcode, rfl⟩⟩
  · intro c hc
    obtain ⟨exitProcess, exitCode, hprocess, hcode, rfl⟩ := (hok c).1 hc
    exact ⟨hprocess, hcode, rfl, rfl, rfl, rfl⟩

end SupervisorConfig

/-! ## A rehearsal -/

namespace SupervisorConfig.Rehearsal

/-- A document without a section on exiting. -/
def sparse : ConfigDocument where
  logging := some { level := some "warn", file := some "d.log" }
  heartbeat := some [⟨"a", none⟩, ⟨"b", some 5⟩]

/-- Its table, with some fields in another order. -/
def sparseTable : Table :=
  [("logging", .table [("file", .string "d.log"), ("level", .string "warn")]),
    ("heartbeat", .array [.table [("name", .string "a")], .table [("interval_ms", .integer 5), ("name", .string "b")]])]

/-- Its text. -/
def sparseText : String :=
  String.ofList (headerLine "[logging]" ++ keyLine "file" (writtenText "d.log") ++ keyLine "level" (writtenText "warn")
    ++ headerLine "[[heartbeat]]" ++ keyLine "name" (writtenText "a")
    ++ headerLine "[[heartbeat]]" ++ keyLine "interval_ms" (toString (5 : Int)).toList ++ keyLine "name" (writtenText "b"))

theorem parse_sparseText : Toml.parse? sparseText = some sparseTable := by
  have hlogging : Lines (headerLine "[logging]") [.header ["logging"]] := Lines.headerLine rfl (by decide)
  have hfile := Lines.keyLine "file" (by decide) (writes_text "d.log")
  have hlevel := Lines.keyLine "level" (by decide) (writes_text "warn")
  have hheartbeat : Lines (headerLine "[[heartbeat]]") [.arrayHeader ["heartbeat"]] := Lines.arrayHeaderLine rfl (by decide)
  have hfirst := Lines.keyLine "name" (by decide) (writes_text "a")
  have hinterval := Lines.keyLine "interval_ms" (by decide) (writes_integer (n := 5) (by decide))
  have hsecond := Lines.keyLine "name" (by decide) (writes_text "b")
  have hlines := ((((((hlogging.append hfile).append hlevel).append hheartbeat).append hfirst).append hheartbeat).append
    hinterval).append hsecond
  refine parse_lines hlines (fun c hc => ?_) rfl rfl
  cases hc
  decide

theorem sparse_writtenAs : sparse.WrittenAs sparseTable := by
  refine ⟨none, some _, some [_, _], List.Perm.refl _, .none, .some ?_, .some (.cons ?_ (.cons ?_ .nil))⟩
  · exact List.Perm.swap _ _ _
  · exact List.Perm.refl _
  · exact List.Perm.swap _ _ _

/-- Variables for an exit code and the level, beside one that does not belong to the configuration. -/
def overrides : List (String × String) :=
  [("SUPERVISOR__LOGGING__LEVEL", "trace"), ("HOME", "/root"), ("SUPERVISOR__SHUTDOWN__EXIT_CODE", "+7")]

/-- The same with a word that is no truth value. -/
def spoiled : List (String × String) :=
  ("SUPERVISOR__SHUTDOWN__EXIT_PROCESS", "maybe") :: overrides

theorem spoiled_fields : ∀ v ∈ spoiled, Environment.mark.toList <+: (Text.lowerCase v.1).toList →
    ∃ f : ConfigField, v.1 = f.variableName := by
  intro v hv hmark
  rcases List.mem_cons.1 hv with rfl | hv
  · exact ⟨.exitProcess, rfl⟩
  rcases List.mem_cons.1 hv with rfl | hv
  · exact ⟨.level, rfl⟩
  rcases List.mem_cons.1 hv with rfl | hv
  · exact absurd hmark (by decide +kernel)
  rcases List.mem_singleton.1 hv with rfl
  exact ⟨.exitCode, rfl⟩

/-- With the two variables the file loads; with a word that is no truth value beside them it fails for a fault of the
configuration. -/
theorem load_environment_over_file_over_defaults_rehearsal :
    load (.ofFile "d.toml" sparseText.toUTF8) "d.toml" overrides =
      .ok ⟨⟨true, 7⟩, ⟨"trace", "pretty", some "d.log"⟩, [⟨"a", 1000⟩, ⟨"b", 5⟩]⟩ ∧
    ∃ fault, load (.ofFile "d.toml" sparseText.toUTF8) "d.toml" spoiled = .error (.config fault) := by
  have hfound : ConfigFile.find? (.ofFile "d.toml" sparseText.toUTF8) "d.toml" = some ("d.toml", sparseText.toUTF8) :=
    ConfigFile.find?_file rfl (by decide +kernel)
  have hoverrides : ∀ v ∈ overrides, Environment.mark.toList <+: (Text.lowerCase v.1).toList → ∃ f : ConfigField, v.1 = f.variableName :=
    fun v hv => spoiled_fields v (List.mem_cons_of_mem _ hv)
  obtain ⟨hloads, hsourced, -⟩ := load_environment_over_file_over_defaults hfound parse_sparseText sparse_writtenAs
    (by decide : (overrides.map (·.1)).Nodup) hoverrides
  obtain ⟨hfails, -, hfault⟩ := load_environment_over_file_over_defaults hfound parse_sparseText sparse_writtenAs
    (by decide : (spoiled.map (·.1)).Nodup) spoiled_fields
  constructor
  · have hcode : ∀ s, overrides.lookup "SUPERVISOR__SHUTDOWN__EXIT_CODE" = some s → ∃ n, int32OfWord? s = some n := by
      intro s hs
      cases (hs : some "+7" = some s)
      exact ⟨7, by decide +kernel⟩
    obtain ⟨c, hc⟩ := hloads.2 ⟨fun s hs => (by cases hs), hcode⟩
    obtain ⟨hprocess, hcode, hlevel, hformat, hfile, hheartbeat⟩ := hsourced c hc
    rcases c with ⟨⟨exitProcess, exitCode⟩, ⟨level, format, file⟩, heartbeat⟩
    have hprocess : exitProcess = true := Option.some.inj (hprocess.symm.trans (by decide +kernel))
    have hcode : exitCode = 7 := Option.some.inj (hcode.symm.trans (by decide +kernel))
    have hlevel : level = "trace" := hlevel.trans (by decide +kernel)
    have hformat : format = "pretty" := hformat.trans (by decide +kernel)
    have hfile : file = some "d.log" := hfile.trans (by decide +kernel)
    have hheartbeat : heartbeat = [⟨"a", 1000⟩, ⟨"b", 5⟩] := hheartbeat.trans (by decide +kernel)
    rw [hc, hprocess, hcode, hlevel, hformat, hfile, hheartbeat]
  · cases hload : load (.ofFile "d.toml" sparseText.toUTF8) "d.toml" spoiled with
    | ok c =>
      obtain ⟨hprocess, -⟩ := hfails.1 ⟨c, hload⟩
      obtain ⟨b, hb⟩ := hprocess "maybe" (by decide +kernel)
      have hnone : boolOfWord? "maybe" = none := by decide +kernel
      rw [hnone] at hb
      cases hb
    | error e =>
      obtain ⟨fault, rfl⟩ := hfault e hload
      exact ⟨fault, rfl⟩

end SupervisorConfig.Rehearsal

end Supervision

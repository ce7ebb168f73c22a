import Supervision.Proofs.Config.Load

/-!
# Files that give some of the fields

A file need not give every field, and gives those that it does in any order (`ConfigDocument.WrittenAs`). `Setting.Holds` says what
settings hold in each field; laid over them, a file changes the fields that it gives and no others, and its heartbeats take the
place of what was there (`Setting.Holds.layer_document`).
-/

namespace Supervision

open Toml

/-! ## Tables with some fields -/

namespace Toml

/-- The entries of the fields that have a value. -/
def given (fields : List (String × Option Value)) : Table :=
  fields.filterMap fun (key, v) => v.map (key, ·)

/-- A table gives those of the fields that have a value, in any order, and nothing else. -/
def Gives (table : Table) (fields : List (String × Option Value)) : Prop :=
  table.Perm (given fields)

variable {table : Table} {fields : List (String × Option Value)}

theorem mem_given {key : String} {v : Value} : (key, v) ∈ given fields ↔ (key, some v) ∈ fields := by
  simp only [given, List.mem_filterMap, Option.map_eq_some_iff, Prod.mk.injEq]
  constructor
  · rintro ⟨⟨_, _⟩, hmem, _, rfl, rfl, rfl⟩
    exact hmem
  · intro hmem
    exact ⟨(key, some v), hmem, v, rfl, rfl, rfl⟩

theorem keys_given (fields : List (String × Option Value)) : ((given fields).map (·.1)).Sublist (fields.map (·.1)) := by
  induction fields with
  | nil => exact List.Sublist.slnil
  | cons field fields ih =>
    obtain ⟨key, v⟩ := field
    cases v with
    | none => exact ih.cons key
    | some v => exact ih.cons_cons key

/-- Where the keys are distinct, what stands under a key is what is there with that key. -/
theorem lookup_eq_some_iff {α : Type} {entries : List (String × α)} (hdistinct : (entries.map (·.1)).Nodup) {key : String}
    {a : α} : entries.lookup key = some a ↔ (key, a) ∈ entries := by
  induction entries with
  | nil => simp
  | cons entry entries ih =>
    obtain ⟨key', b⟩ := entry
    obtain ⟨hfresh, hdistinct⟩ := List.nodup_cons.1 hdistinct
    rw [Setting.lookup_cons_eq_ite, List.mem_cons, Prod.mk.injEq]
    by_cases hkey : key = key'
    · have hnot : (key, a) ∉ entries := fun hmem => hfresh (List.mem_map.2 ⟨(key, a), hmem, hkey⟩)
      simp [hkey, hkey ▸ hnot, eq_comm]
    · simp [hkey, ih hdistinct]

namespace Gives

/-- The keys of a table are some of those of its fields. -/
theorem key_mem (h : Gives table fields) {entry : String × Value} (hentry : entry ∈ table) : entry.1 ∈ fields.map (·.1) :=
  (keys_given fields).subset (List.mem_map_of_mem (h.mem_iff.1 hentry))

/-- The keys of a table are distinct if those of its fields are. -/
theorem distinct (h : Gives table fields) (hfields : (fields.map (·.1)).Nodup) : (table.map (·.1)).Nodup :=
  (h.map (·.1)).nodup_iff.2 (hfields.sublist (keys_given fields))

/-- Under the key of a field stands its value. -/
theorem lookup (h : Gives table fields) (hfields : (fields.map (·.1)).Nodup) (key : String) :
    table.lookup key = (fields.lookup key).join := by
  ext v
  rw [lookup_eq_some_iff (h.distinct hfields), h.mem_iff, mem_given, Option.join_eq_some_iff, lookup_eq_some_iff hfields]

end Gives

end Toml

/-! ## Documents -/

/-- What a file may say of how to exit. -/
structure ShutdownSection where
  exitProcess : Option Bool := none
  exitCode : Option Int32 := none

/-- What a file may say of how to log. -/
structure LoggingSection where
  level : Option String := none
  format : Option String := none
  file : Option String := none

/-- A heartbeat in a file, with its interval in milliseconds if it has one. -/
structure HeartbeatSection where
  name : String
  intervalMs : Option UInt64 := none

/-- What a file may say, with or without each of the sections. -/
structure ConfigDocument where
  shutdown : Option ShutdownSection := none
  logging : Option LoggingSection := none
  heartbeat : Option (List HeartbeatSection) := none

/-- The fields of the section on exiting. -/
def ShutdownSection.fields (s : ShutdownSection) : List (String × Option Value) :=
  [("exit_process", s.exitProcess.map .boolean), ("exit_code", s.exitCode.map fun n => .integer n.toInt)]

/-- The fields of the section on logging. -/
def LoggingSection.fields (s : LoggingSection) : List (String × Option Value) :=
  [("level", s.level.map .string), ("format", s.format.map .string), ("file", s.file.map .string)]

/-- The fields of a heartbeat. -/
def HeartbeatSection.fields (s : HeartbeatSection) : List (String × Option Value) :=
  [("name", some (.string s.name)), ("interval_ms", s.intervalMs.map fun n => .integer n.toNat)]

/-- The heartbeat that a file gives. One without an interval beats every second. -/
def HeartbeatSection.config (s : HeartbeatSection) : HeartbeatConfig :=
  ⟨s.name, s.intervalMs.getD 1000⟩

namespace ConfigDocument

variable (d : ConfigDocument)

def exitProcess : Option Bool :=
  d.shutdown.bind (·.exitProcess)

def exitCode : Option Int32 :=
  d.shutdown.bind (·.exitCode)

def level : Option String :=
  d.logging.bind (·.level)

def format : Option String :=
  d.logging.bind (·.format)

def file : Option String :=
  d.logging.bind (·.file)

/-- A document says this: it has a table for each section that is there, and an array with a table for each heartbeat, and
nothing else. -/
def WrittenAs (table : Table) : Prop :=
  ∃ (shutdown logging : Option Table) (heartbeat : Option (List Table)),
    Gives table [("shutdown", shutdown.map .table), ("logging", logging.map .table),
      ("heartbeat", heartbeat.map fun tables => .array (tables.map .table))] ∧
    Option.Rel (fun table s => Gives table s.fields) shutdown d.shutdown ∧
    Option.Rel (fun table s => Gives table s.fields) logging d.logging ∧
    Option.Rel (List.Forall₂ fun table s => Gives table s.fields) heartbeat d.heartbeat

end ConfigDocument

/-! ## Fields -/

/-- A field of a section. -/
inductive ConfigField where
  | exitProcess
  | exitCode
  | level
  | format
  | file
deriving DecidableEq

namespace ConfigField

/-- The section of a field. -/
def sectionKey : ConfigField → String
  | exitProcess | exitCode => "shutdown"
  | level | format | file => "logging"

/-- The key of a field in its section. -/
def key : ConfigField → String
  | exitProcess => "exit_process"
  | exitCode => "exit_code"
  | level => "level"
  | format => "format"
  | file => "file"

/-- The default of a field, if it has one of its own. -/
def default? : ConfigField → Option Scalar
  | exitProcess => some (.bool true)
  | exitCode => some (.integer 0)
  | level => some (.text "info")
  | format => some (.text "pretty")
  | file => none

end ConfigField

/-- What a document says of a field. -/
def ConfigDocument.scalar? (d : ConfigDocument) : ConfigField → Option Scalar
  | .exitProcess => d.exitProcess.map .bool
  | .exitCode => d.exitCode.map fun n => .integer n.toInt
  | .level => d.level.map .text
  | .format => d.format.map .text
  | .file => d.file.map .text

/-- Settings hold these settings in the fields of their sections, which are tables, and these heartbeats. -/
structure Setting.Holds (s : Setting) (value : ConfigField → Option Setting) (heartbeat : Option (List HeartbeatConfig)) :
    Prop where
  tables : ∀ f : ConfigField, ∃ t, s.entries.lookup f.sectionKey = some t ∧ t.IsTable
  fields : ∀ f : ConfigField, (s.entries.lookup f.sectionKey).bind (·.entries.lookup f.key) = value f
  heartbeat : Conversion.field s.entries "heartbeat" HeartbeatConfig.listOfSetting = .ok heartbeat

/-! ## The file -/

/-- A table of a document over a setting: under the key of a field with a value stands what the value leaves of what was there,
under any other key what was there. -/
theorem Toml.Gives.lookup_overlayAll {table : Table} {fields : List (String × Option Value)} (h : Gives table fields)
    (hfields : (fields.map (·.1)).Nodup) (hlower : ∀ key ∈ fields.map (·.1), Text.lowerCase key = key) (origin : String)
    (target : Setting) (k : String) :
    (Setting.overlayAll target (Setting.entriesOfToml origin table)).entries.lookup k =
      (((fields.lookup k).join.map (Setting.ofToml origin)).map (Setting.overlaid (target.entries.lookup k))).or
        (target.entries.lookup k) := by
  have hkeys : (Setting.entriesOfToml origin table).map (·.1) = table.map (·.1) := by
    rw [Setting.entriesOfToml_eq_map, List.map_map]
    rfl
  rw [Setting.lookup_overlayAll, Setting.lookup_entriesOfToml, h.lookup hfields]
  · intro entry hentry
    have hmem : entry.1 ∈ table.map (·.1) := hkeys ▸ List.mem_map_of_mem hentry
    obtain ⟨entry', hentry', hkey⟩ := List.mem_map.1 hmem
    exact hlower entry.1 (hkey ▸ h.key_mem hentry')
  · rw [hkeys]
    exact h.distinct hfields

/-- A table of a document over a table leaves a table. -/
theorem Toml.Gives.isTable_overlayAll {table : Table} {fields : List (String × Option Value)} (h : Gives table fields)
    (hlower : ∀ key ∈ fields.map (·.1), Text.lowerCase key = key) (origin : String) {target : Setting} (htarget : target.IsTable) :
    (Setting.overlayAll target (Setting.entriesOfToml origin table)).IsTable := by
  refine Setting.isTable_overlayAll htarget fun entry hentry => ?_
  rw [Setting.entriesOfToml_eq_map] at hentry
  obtain ⟨entry', hentry', rfl⟩ := List.mem_map.1 hentry
  exact hlower entry'.1 (h.key_mem hentry')

/-- A heartbeat of a file converts to the one that the file gives. -/
theorem HeartbeatSection.ofSetting_table {s : HeartbeatSection} {table : Table} (h : Gives table s.fields) (origin : String) :
    HeartbeatConfig.ofSetting (Setting.ofToml origin (.table table)) = .ok s.config := by
  have hfields : (s.fields.map (·.1)).Nodup := by simp [HeartbeatSection.fields]
  have hname : Conversion.field (Setting.entriesOfToml origin table) "name" Setting.toText = .ok (some s.name) := by
    refine Conversion.field_some (s := .scalar (some origin) (.text s.name)) ?_ rfl
    rw [Setting.lookup_entriesOfToml, h.lookup hfields]
    rfl
  have hinterval : Conversion.field (Setting.entriesOfToml origin table) "interval_ms" Setting.toUInt64 = .ok s.intervalMs := by
    have hlookup : (Setting.entriesOfToml origin table).lookup "interval_ms" =
        s.intervalMs.map fun n => .scalar (some origin) (.integer n.toNat) := by
      rw [Setting.lookup_entriesOfToml, h.lookup hfields]
      cases hs : s.intervalMs <;> simp [HeartbeatSection.fields, List.lookup_cons, hs, Setting.ofToml]
    cases hs : s.intervalMs with
    | none => exact Conversion.field_none (by rw [hlookup, hs]; rfl)
    | some n => exact Conversion.field_some (by rw [hlookup, hs]; rfl) (Setting.toUInt64_integer _ n)
  rw [Setting.ofToml, HeartbeatConfig.ofSetting, hname, hinterval]
  rfl

/-- A section that may be missing, laid over a table: what the section gives wins over what was there. -/
theorem exists_section {table? : Option Table} {fields : List (String × Option Value)} (h : Gives (table?.getD []) fields)
    (hfields : (fields.map (·.1)).Nodup) (hlower : ∀ key ∈ fields.map (·.1), Text.lowerCase key = key) (origin : String)
    {t : Setting} (ht : t.IsTable) :
    ∃ t', (((table?.map Value.table).map (Setting.ofToml origin)).map (Setting.overlaid (some t))).or (some t) = some t' ∧
      t'.IsTable ∧
      ∀ k, t'.entries.lookup k = (((fields.lookup k).join.map (Setting.ofToml origin)).map
        (Setting.overlaid (t.entries.lookup k))).or (t.entries.lookup k) := by
  refine ⟨Setting.overlayAll t (Setting.entriesOfToml origin (table?.getD [])), ?_, ?_, ?_⟩
  · cases table? with
    | none => rfl
    | some table => rfl
  · exact h.isTable_overlayAll hlower origin ht
  · exact h.lookup_overlayAll hfields hlower origin t

/-- A section that is there or not gives its fields, if one that is empty gives none. -/
theorem gives_getD {α : Type} {fields : α → List (String × Option Value)} {empty : α} (hempty : given (fields empty) = [])
    {table? : Option Table} {section? : Option α} (h : Option.Rel (fun table s => Gives table (fields s)) table? section?) :
    Gives (table?.getD []) (fields (section?.getD empty)) := by
  cases h with
  | none => exact hempty ▸ List.Perm.nil
  | some h => exact h

/-- The heartbeats of a file convert to those that the file gives. -/
theorem HeartbeatSection.listOfSetting_tables {tables : List Table} {sections : List HeartbeatSection}
    (h : List.Forall₂ (fun table s => Gives table s.fields) tables sections) (origin : String) :
    HeartbeatConfig.listOfSetting (Setting.ofToml origin (.array (tables.map .table))) = .ok (sections.map HeartbeatSection.config) := by
  rw [Setting.ofToml, HeartbeatConfig.listOfSetting, Setting.listOfToml_eq_map, List.map_map]
  refine HeartbeatConfig.listFrom_ok ?_ 0
  rw [List.forall₂_map_left_iff, List.forall₂_map_right_iff]
  exact h.imp fun table s hs => HeartbeatSection.ofSetting_table hs origin

namespace ConfigDocument

variable (d : ConfigDocument)

/-- The fields of the section in which a field is. -/
def fieldsBeside : ConfigField → List (String × Option Value)
  | .exitProcess | .exitCode => (d.shutdown.getD {}).fields
  | .level | .format | .file => (d.logging.getD {}).fields

theorem fieldsBeside_distinct (f : ConfigField) : ((d.fieldsBeside f).map (·.1)).Nodup := by
  cases f <;> simp [fieldsBeside, ShutdownSection.fields, LoggingSection.fields]

theorem fieldsBeside_lowerCase (f : ConfigField) : ∀ key ∈ (d.fieldsBeside f).map (·.1), Text.lowerCase key = key := by
  have hshutdown : ∀ key ∈ ["exit_process", "exit_code"], Text.lowerCase key = key := by decide +kernel
  have hlogging : ∀ key ∈ ["level", "format", "file"], Text.lowerCase key = key := by decide +kernel
  cases f
  · exact hshutdown
  · exact hshutdown
  · exact hlogging
  · exact hlogging
  · exact hlogging

/-- Under the key of a field is what the document says of it. -/
theorem lookup_fieldsBeside (f : ConfigField) (origin : String) :
    ((d.fieldsBeside f).lookup f.key).join.map (Setting.ofToml origin) = (d.scalar? f).map (.scalar (some origin)) := by
  obtain ⟨shutdown, logging, _⟩ := d
  cases f
  · rcases shutdown with _ | ⟨_ | _, _⟩ <;> rfl
  · rcases shutdown with _ | ⟨_, _ | _⟩ <;> rfl
  · rcases logging with _ | ⟨_ | _, _, _⟩ <;> rfl
  · rcases logging with _ | ⟨_, _ | _, _⟩ <;> rfl
  · rcases logging with _ | ⟨_, _, _ | _⟩ <;> rfl

end ConfigDocument

section

variable {table : Table} {shutdown logging heartbeats : Option Value}

/-- A document laid over settings: what it says under a key leaves what it does of what was there. -/
theorem lookup_layer_document
    (h : Gives table [("shutdown", shutdown), ("logging", logging), ("heartbeat", heartbeats)]) (origin : String) (s : Setting)
    (k : String) :
    (s.layer (Setting.entriesOfToml origin table)).entries.lookup k =
      (((List.lookup k [("shutdown", shutdown), ("logging", logging), ("heartbeat", heartbeats)]).join.map
        (Setting.ofToml origin)).map (Setting.overlaid (s.entries.lookup k))).or (s.entries.lookup k) := by
  have hplain : ∀ key ∈ ["shutdown", "logging", "heartbeat"], PlainKey key := by decide +kernel
  have hsource : ∀ entry ∈ Setting.entriesOfToml origin table, PlainKey entry.1 := by
    intro entry hentry
    rw [Setting.entriesOfToml_eq_map] at hentry
    obtain ⟨entry', hentry', rfl⟩ := List.mem_map.1 hentry
    exact hplain _ (h.key_mem hentry')
  rw [Setting.layer_eq_overlayAll hsource]
  exact h.lookup_overlayAll (by simp) (fun key hkey => (hplain key hkey).2) origin s k

end

namespace Setting.Holds

variable {s : Setting} {value : ConfigField → Option Setting} {heartbeat : Option (List HeartbeatConfig)}

/-- In the section of a field stands the setting of the field. -/
theorem lookup_key (h : s.Holds value heartbeat) {f : ConfigField} {t : Setting} (ht : s.entries.lookup f.sectionKey = some t) :
    t.entries.lookup f.key = value f := by
  rw [← h.fields f, ht, Option.bind_some]

/-- What a file says of a field wins over what was there, and its heartbeats stand alone. -/
theorem layer_document {d : ConfigDocument} {table : Table} (hd : d.WrittenAs table) (origin : String)
    (h : s.Holds value heartbeat) :
    (s.layer (entriesOfToml origin table)).Holds (fun f => ((d.scalar? f).map (.scalar (some origin))).or (value f))
      ((d.heartbeat.map fun sections => sections.map HeartbeatSection.config).or heartbeat) := by
  obtain ⟨shutdown, logging, heartbeats, htable, hshutdown, hlogging, hheartbeat⟩ := hd
  have hlookup := lookup_layer_document htable origin s
  have hsection : ∀ f : ConfigField, ∃ t', (s.layer (entriesOfToml origin table)).entries.lookup f.sectionKey = some t' ∧
      t'.IsTable ∧ t'.entries.lookup f.key = ((d.scalar? f).map (.scalar (some origin))).or (value f) := by
    intro f
    obtain ⟨t, ht, hts⟩ := h.tables f
    obtain ⟨table?, hgives, hfound⟩ : ∃ table? : Option Table, Gives (table?.getD []) (d.fieldsBeside f) ∧
        (s.layer (entriesOfToml origin table)).entries.lookup f.sectionKey =
          (((table?.map Value.table).map (ofToml origin)).map (overlaid (some t))).or (some t) := by
      cases f
      · exact ⟨shutdown, gives_getD rfl hshutdown, by rw [hlookup, ht]; rfl⟩
      · exact ⟨shutdown, gives_getD rfl hshutdown, by rw [hlookup, ht]; rfl⟩
      · exact ⟨logging, gives_getD rfl hlogging, by rw [hlookup, ht]; rfl⟩
      · exact ⟨logging, gives_getD rfl hlogging, by rw [hlookup, ht]; rfl⟩
      · exact ⟨logging, gives_getD rfl hlogging, by rw [hlookup, ht]; rfl⟩
    obtain ⟨t', ht', hts', hfields⟩ :=
      exists_section hgives (d.fieldsBeside_distinct f) (d.fieldsBeside_lowerCase f) origin hts
    refine ⟨t', hfound.trans ht', hts', ?_⟩
    rw [hfields, d.lookup_fieldsBeside, h.lookup_key ht, Option.map_map]
    rfl
  refine ⟨fun f => ?_, fun f => ?_, ?_⟩
  · obtain ⟨t', ht', hts', -⟩ := hsection f
    exact ⟨t', ht', hts'⟩
  · obtain ⟨t', ht', -, hvalue⟩ := hsection f
    rw [ht', Option.bind_some, hvalue]
  · have hfound : (s.layer (entriesOfToml origin table)).entries.lookup "heartbeat" =
        (heartbeats.map fun tables => ofToml origin (.array (tables.map .table))).or (s.entries.lookup "heartbeat") := by
      rw [hlookup]
      cases heartbeats <;> rfl
    generalize d.heartbeat = sections? at hheartbeat ⊢
    cases hheartbeat with
    | none =>
      rw [Conversion.field, hfound]
      exact h.heartbeat
    | some hsections => exact Conversion.field_some hfound (HeartbeatSection.listOfSetting_tables hsections origin)

end Setting.Holds

/-- The defaults hold the default of each field, and no heartbeats. -/
theorem holds_defaultSettings : defaultSettings.Holds (fun f => f.default?.map (.scalar none)) none := by
  refine ⟨fun f => ?_, fun f => ?_, rfl⟩
  · cases f <;> exact ⟨_, rfl, _, rfl⟩
  · cases f <;> rfl

end Supervision

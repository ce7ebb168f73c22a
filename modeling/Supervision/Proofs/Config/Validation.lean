import Supervision.Config.Validation
import Mathlib

/-!
# Well-formed configurations and the first fault of the others

What makes a configuration valid is said here without a scan: `SupervisorConfig.WellFormed` names the rules one by one, and
`SupervisorConfig.FirstFault` says which violation comes first, that of the heartbeat of the smallest index where several
heartbeats are at fault. `SupervisorConfig.validate_names_first_fault` ties validation to both. The scan carries the names that it
has seen, so the statements about it are about heartbeats that follow others with these names (`FaultAt`).
-/

namespace Supervision

namespace Text

/-- The characters to which Unicode gives the property White_Space. -/
def WhiteSpace (c : Char) : Prop :=
  (9 ≤ c.toNat ∧ c.toNat ≤ 13) ∨ c.toNat = 32 ∨ c.toNat = 133 ∨ c.toNat = 160 ∨ c.toNat = 5760 ∨
    (8192 ≤ c.toNat ∧ c.toNat ≤ 8202) ∨ c.toNat = 8232 ∨ c.toNat = 8233 ∨ c.toNat = 8239 ∨ c.toNat = 8287 ∨ c.toNat = 12288

/-- A point is in a set between its first two edges, or behind them in what the other edges bound. -/
theorem CodePoints.hasPoint_cons_cons (a b n : Nat) (edges : List Nat) (hab : a < b) :
    (CodePoints.mk (a :: b :: edges)).hasPoint n = true ↔
      (a ≤ n ∧ n < b) ∨ (b ≤ n ∧ (CodePoints.mk edges).hasPoint n = true) := by
  unfold hasPoint
  by_cases ha : a ≤ n
  · by_cases hb : b ≤ n
    · simp [ha, hb]
      omega
    · simp [ha, hb]
      omega
  · have hb : ¬b ≤ n := by omega
    simp [ha, hb]

/-- The edges bound the characters with the property. -/
theorem whiteSpace_has_iff (c : Char) : whiteSpace.has c = true ↔ WhiteSpace c := by
  have hnone : (CodePoints.mk []).hasPoint c.toNat = false := rfl
  unfold whiteSpace CodePoints.has WhiteSpace
  simp (disch := decide) only [CodePoints.hasPoint_cons_cons, hnone, Bool.false_eq_true, and_false, or_false]
  omega

/-- A text is blank exactly if it holds nothing but white space. -/
theorem isBlank_iff (s : String) : isBlank s = true ↔ ∀ c ∈ s.toList, WhiteSpace c := by
  simp only [isBlank, List.all_eq_true, whiteSpace_has_iff]

end Text

namespace SupervisorConfig

/-! ## Messages -/

namespace Violation

/-- The words of a message before and behind what it is about. -/
def frame : Violation → String × String
  | exitCode _ => ("Shutdown exit_code must be between 0 and 255, got ", "")
  | level _ => ("Unknown log level '", "'")
  | format _ => ("Unknown log format '", "'")
  | blankName => ("Heartbeat name must not be empty", "")
  | zeroInterval _ => ("Heartbeat '", "' interval_ms must be greater than 0")
  | duplicateName _ => ("Duplicate heartbeat name '", "'")

/-- What a message is about. -/
def subject : Violation → String
  | exitCode code => toString code.toInt
  | level s | format s | zeroInterval s | duplicateName s => s
  | blankName => ""

theorem message_eq (v : Violation) : v.message = v.frame.1 ++ v.subject ++ v.frame.2 := by
  cases v with
  | exitCode code => exact (String.append_empty).symm
  | level s => rfl
  | format s => rfl
  | blankName => rfl
  | zeroInterval s => rfl
  | duplicateName s => rfl

/-- The text of a violation tells which one it is. -/
theorem message_inj {v v' : Violation} (h : v.message = v'.message) : v = v' := by
  rw [message_eq, message_eq] at h
  have hchars := congrArg String.toList h
  -- the words before the subject tell the rules apart, at the latest by their twelfth character
  cases v <;> cases v' <;> simp [frame, subject] at hchars ⊢
  case exitCode.exitCode => exact Int32.toInt_inj.1 (Int.repr_inj.1 (String.toList_inj.1 hchars))
  all_goals exact String.toList_inj.1 hchars

end Violation

/-! ## Heartbeats -/

/-- What is wrong with a heartbeat that follows others with these names: a blank name is reported before a zero interval, and a
zero interval before a name that was given already. -/
inductive Fault (earlier : List String) (h : HeartbeatConfig) : Violation → Prop where
  | blankName : (∀ c ∈ h.name.toList, Text.WhiteSpace c) → Fault earlier h .blankName
  | zeroInterval : (∃ c ∈ h.name.toList, ¬Text.WhiteSpace c) → h.intervalMs = 0 → Fault earlier h (.zeroInterval h.name)
  | duplicateName : (∃ c ∈ h.name.toList, ¬Text.WhiteSpace c) → h.intervalMs ≠ 0 → h.name ∈ earlier →
      Fault earlier h (.duplicateName h.name)

/-- What is wrong with the heartbeat of an index among heartbeats that follow others with these names. -/
def FaultAt (earlier : List String) (hs : List HeartbeatConfig) (i : Nat) (v : Violation) : Prop :=
  ∃ h, hs[i]? = some h ∧ Fault (earlier ++ (hs.take i).map (·.name)) h v

theorem not_blank_iff (h : HeartbeatConfig) : Text.isBlank h.name = false ↔ ∃ c ∈ h.name.toList, ¬Text.WhiteSpace c := by
  rw [← Bool.not_eq_true, Text.isBlank_iff]
  simp

/-- Only the names themselves matter, not the order in which they were given. -/
theorem Fault.congr {earlier earlier' : List String} (hnames : ∀ name, name ∈ earlier ↔ name ∈ earlier') {h : HeartbeatConfig}
    {v : Violation} (hf : Fault earlier h v) : Fault earlier' h v := by
  cases hf with
  | blankName hblank => exact .blankName hblank
  | zeroInterval hname hzero => exact .zeroInterval hname hzero
  | duplicateName hname hpaced hseen => exact .duplicateName hname hpaced ((hnames _).1 hseen)

variable {seen : List String} {h : HeartbeatConfig} {hs : List HeartbeatConfig} {v : Violation}

/-- The scan stops at a heartbeat with its fault. -/
theorem heartbeatViolation?_of_fault (hf : Fault seen h v) : heartbeatViolation? seen (h :: hs) = some v := by
  unfold heartbeatViolation?
  cases hf with
  | blankName hblank => rw [if_pos ((Text.isBlank_iff _).2 hblank)]
  | zeroInterval hname hzero => rw [(not_blank_iff h).2 hname, if_neg Bool.false_ne_true, if_pos hzero]
  | duplicateName hname hpaced hseen =>
    rw [(not_blank_iff h).2 hname, if_neg Bool.false_ne_true, if_neg hpaced, if_pos hseen]

/-- The scan passes a heartbeat without a fault, and keeps its name. -/
theorem heartbeatViolation?_of_no_fault (hf : ∀ v, ¬Fault seen h v) :
    heartbeatViolation? seen (h :: hs) = heartbeatViolation? (h.name :: seen) hs := by
  have hname : Text.isBlank h.name = false := by
    rw [← Bool.not_eq_true]
    exact fun hblank => hf _ (.blankName ((Text.isBlank_iff _).1 hblank))
  have hpaced : h.intervalMs ≠ 0 := fun hzero => hf _ (.zeroInterval ((not_blank_iff h).1 hname) hzero)
  have hnew : h.name ∉ seen := fun hseen => hf _ (.duplicateName ((not_blank_iff h).1 hname) hpaced hseen)
  rw [heartbeatViolation?, hname, if_neg Bool.false_ne_true, if_neg hpaced, if_neg hnew]

theorem faultAt_zero : FaultAt seen (h :: hs) 0 v ↔ Fault seen h v := by
  simp [FaultAt]

/-- Behind a heartbeat its name is among those given. -/
theorem faultAt_succ {i : Nat} : FaultAt seen (h :: hs) (i + 1) v ↔ FaultAt (h.name :: seen) hs i v := by
  have hnames : ∀ name, name ∈ seen ++ ((h :: hs).take (i + 1)).map (·.name) ↔
      name ∈ h.name :: seen ++ (hs.take i).map (·.name) := by
    intro name
    simp only [List.take_succ_cons, List.map_cons, List.mem_append, List.mem_cons]
    tauto
  simp only [FaultAt, List.getElem?_cons_succ]
  constructor
  · rintro ⟨h', hget, hf⟩
    exact ⟨h', hget, hf.congr hnames⟩
  · rintro ⟨h', hget, hf⟩
    exact ⟨h', hget, hf.congr fun name => (hnames name).symm⟩

/-- The scan ends with the fault of the smallest index at which there is one. -/
theorem heartbeatViolation?_eq_some_iff :
    heartbeatViolation? seen hs = some v ↔ ∃ i, FaultAt seen hs i v ∧ ∀ j < i, ∀ v', ¬FaultAt seen hs j v' := by
  induction hs generalizing seen with
  | nil => simp [heartbeatViolation?, FaultAt]
  | cons h hs ih =>
    by_cases hfault : ∃ v', Fault seen h v'
    · obtain ⟨v', hv'⟩ := hfault
      rw [heartbeatViolation?_of_fault hv', Option.some.injEq]
      constructor
      · rintro rfl
        exact ⟨0, faultAt_zero.2 hv', by simp⟩
      · rintro ⟨i, hi, hfirst⟩
        cases i with
        | zero =>
          have hv : heartbeatViolation? seen (h :: hs) = some v := heartbeatViolation?_of_fault (faultAt_zero.1 hi)
          rw [heartbeatViolation?_of_fault hv'] at hv
          exact Option.some.inj hv
        | succ i => exact absurd (faultAt_zero.2 hv') (hfirst 0 (Nat.succ_pos i) v')
    · have hnone : ∀ v', ¬Fault seen h v' := fun v' hv' => hfault ⟨v', hv'⟩
      rw [heartbeatViolation?_of_no_fault hnone, ih]
      constructor
      · rintro ⟨i, hi, hfirst⟩
        refine ⟨i + 1, faultAt_succ.2 hi, fun j hj v' => ?_⟩
        cases j with
        | zero => exact fun hj => hnone v' (faultAt_zero.1 hj)
        | succ j => exact fun hj' => hfirst j (by omega) v' (faultAt_succ.1 hj')
      · rintro ⟨i, hi, hfirst⟩
        cases i with
        | zero => exact absurd (faultAt_zero.1 hi) (hnone v)
        | succ i =>
          exact ⟨i, faultAt_succ.1 hi, fun j hj v' hj' => hfirst (j + 1) (by omega) v' (faultAt_succ.2 hj')⟩

/-- The scan finds nothing exactly if every heartbeat has a name that is not blank and an interval, and their names differ from
each other and from those seen before. -/
theorem heartbeatViolation?_eq_none_iff :
    heartbeatViolation? seen hs = none ↔
      (∀ h ∈ hs, ∃ c ∈ h.name.toList, ¬Text.WhiteSpace c) ∧ (∀ h ∈ hs, h.intervalMs ≠ 0) ∧
        hs.Pairwise (·.name ≠ ·.name) ∧ ∀ h ∈ hs, h.name ∉ seen := by
  induction hs generalizing seen with
  | nil => simp [heartbeatViolation?]
  | cons h hs ih =>
    rw [heartbeatViolation?]
    by_cases hblank : Text.isBlank h.name = true
    · have hno : ¬∃ c ∈ h.name.toList, ¬Text.WhiteSpace c := by
        rw [← not_blank_iff, hblank]
        simp
      simp [hblank, hno]
    · have hname := (not_blank_iff h).1 (Bool.not_eq_true _ ▸ hblank)
      by_cases hzero : h.intervalMs = 0
      · simp [hblank, hzero]
      · by_cases hseen : h.name ∈ seen
        · simp [hblank, hzero, hseen]
        · rw [if_neg hblank, if_neg hzero, if_neg hseen, ih]
          simp only [List.forall_mem_cons, List.pairwise_cons]
          simp only [List.mem_cons, not_or]
          constructor
          · rintro ⟨hnamed, hpaced, hdistinct, hnew⟩
            exact ⟨⟨hname, hnamed⟩, ⟨hzero, hpaced⟩, ⟨fun h' hh' => Ne.symm (hnew h' hh').1, hdistinct⟩, hseen,
              fun h' hh' => (hnew h' hh').2⟩
          · rintro ⟨⟨-, hnamed⟩, ⟨-, hpaced⟩, ⟨hother, hdistinct⟩, -, hnew⟩
            exact ⟨hnamed, hpaced, hdistinct, fun h' hh' => ⟨Ne.symm (hother h' hh'), hnew h' hh'⟩⟩

/-! ## Configurations -/

/-- The exit code is a status that a process can end with. -/
def ExitCodeFits (c : SupervisorConfig) : Prop :=
  0 ≤ c.shutdown.exitCode.toInt ∧ c.shutdown.exitCode.toInt ≤ 255

/-- The level is one that the log knows. -/
def LevelKnown (c : SupervisorConfig) : Prop :=
  c.logging.level ∈ ["error", "warn", "info", "debug", "trace"]

/-- The format is one that the log knows. -/
def FormatKnown (c : SupervisorConfig) : Prop :=
  c.logging.format ∈ ["pretty", "compact", "json"]

/-- What a daemon asks of a configuration. -/
structure WellFormed (c : SupervisorConfig) : Prop where
  exitCode : c.ExitCodeFits
  level : c.LevelKnown
  format : c.FormatKnown
  named : ∀ h ∈ c.heartbeat, ∃ ch ∈ h.name.toList, ¬Text.WhiteSpace ch
  paced : ∀ h ∈ c.heartbeat, 1 ≤ h.intervalMs.toNat
  distinct : c.heartbeat.Pairwise (·.name ≠ ·.name)

/-- The violation that comes first: that of the exit code, of the level, of the format, and then that of the heartbeat of the
smallest index at which one is at fault. -/
inductive FirstFault (c : SupervisorConfig) : Violation → Prop where
  | exitCode : ¬c.ExitCodeFits → FirstFault c (.exitCode c.shutdown.exitCode)
  | level : c.ExitCodeFits → ¬c.LevelKnown → FirstFault c (.level c.logging.level)
  | format : c.ExitCodeFits → c.LevelKnown → ¬c.FormatKnown → FirstFault c (.format c.logging.format)
  | heartbeat {i : Nat} {v : Violation} : c.ExitCodeFits → c.LevelKnown → c.FormatKnown → FaultAt [] c.heartbeat i v →
      (∀ j < i, ∀ v', ¬FaultAt [] c.heartbeat j v') → FirstFault c v

theorem exitCode_misfits_iff (c : SupervisorConfig) :
    (c.shutdown.exitCode < 0 ∨ 255 < c.shutdown.exitCode) ↔ ¬c.ExitCodeFits := by
  have hlow : c.shutdown.exitCode < 0 ↔ c.shutdown.exitCode.toInt < 0 := Int32.lt_iff_toInt_lt
  have hhigh : 255 < c.shutdown.exitCode ↔ 255 < c.shutdown.exitCode.toInt := Int32.lt_iff_toInt_lt
  rw [hlow, hhigh, ExitCodeFits]
  omega

/-- A configuration that passes the rules about the whole is judged by its heartbeats. -/
theorem violation?_of_rules {c : SupervisorConfig} (hexit : c.ExitCodeFits) (hlevel : c.LevelKnown) (hformat : c.FormatKnown) :
    c.violation? = heartbeatViolation? [] c.heartbeat := by
  have hlevel : c.logging.level ∈ logLevels := hlevel
  have hformat : c.logging.format ∈ logFormats := hformat
  rw [violation?, if_neg ((exitCode_misfits_iff c).not.2 (not_not_intro hexit)), if_neg (not_not_intro hlevel),
    if_neg (not_not_intro hformat)]

/-- An interval is not zero exactly if it is a millisecond at least. -/
theorem paced_iff (h : HeartbeatConfig) : h.intervalMs ≠ 0 ↔ 1 ≤ h.intervalMs.toNat := by
  rw [Nat.one_le_iff_ne_zero, ne_eq, ← UInt64.toNat_inj]
  rfl

theorem WellFormed.violation? {c : SupervisorConfig} (hc : c.WellFormed) : c.violation? = none := by
  rw [violation?_of_rules hc.exitCode hc.level hc.format, heartbeatViolation?_eq_none_iff]
  refine ⟨hc.named, fun h hh => (paced_iff h).2 (hc.paced h hh), hc.distinct, ?_⟩
  intro h _
  exact List.not_mem_nil

theorem FirstFault.violation? {c : SupervisorConfig} {v : Violation} (hv : c.FirstFault v) : c.violation? = some v := by
  cases hv with
  | exitCode hexit => rw [SupervisorConfig.violation?, if_pos ((exitCode_misfits_iff c).2 hexit)]
  | level hexit hlevel =>
    have hlevel : c.logging.level ∉ logLevels := hlevel
    rw [SupervisorConfig.violation?, if_neg ((exitCode_misfits_iff c).not.2 (not_not_intro hexit)), if_pos hlevel]
  | format hexit hlevel hformat =>
    have hlevel : c.logging.level ∈ logLevels := hlevel
    have hformat : c.logging.format ∉ logFormats := hformat
    rw [SupervisorConfig.violation?, if_neg ((exitCode_misfits_iff c).not.2 (not_not_intro hexit)),
      if_neg (not_not_intro hlevel), if_pos hformat]
  | heartbeat hexit hlevel hformat hi hfirst =>
    rw [violation?_of_rules hexit hlevel hformat]
    exact heartbeatViolation?_eq_some_iff.2 ⟨_, hi, hfirst⟩

/-- Nothing is wrong with a configuration, or something is wrong with it first. -/
theorem wellFormed_or_firstFault (c : SupervisorConfig) : c.WellFormed ∨ ∃ v, c.FirstFault v := by
  by_cases hexit : c.ExitCodeFits
  · by_cases hlevel : c.LevelKnown
    · by_cases hformat : c.FormatKnown
      · cases hscan : heartbeatViolation? [] c.heartbeat with
        | none =>
          obtain ⟨hnamed, hpaced, hdistinct, -⟩ := heartbeatViolation?_eq_none_iff.1 hscan
          exact .inl ⟨hexit, hlevel, hformat, hnamed, fun h hh => (paced_iff h).1 (hpaced h hh), hdistinct⟩
        | some v =>
          obtain ⟨i, hi, hfirst⟩ := heartbeatViolation?_eq_some_iff.1 hscan
          exact .inr ⟨v, .heartbeat hexit hlevel hformat hi hfirst⟩
      · exact .inr ⟨_, .format hexit hlevel hformat⟩
    · exact .inr ⟨_, .level hexit hlevel⟩
  · exact .inr ⟨_, .exitCode hexit⟩

/-- Validation accepts exactly the well-formed configurations. For any other one it answers with an error that names the first
fault, and the fault that an answer names is the first one. -/
theorem validate_names_first_fault (c : SupervisorConfig) :
    (c.validate = .ok () ↔ c.WellFormed) ∧
    (¬c.WellFormed → ∃ v, c.FirstFault v ∧ c.validate = .error (.config (.invalid v.message))) ∧
    ∀ v, c.validate = .error (.config (.invalid v.message)) → c.FirstFault v := by
  have hfault : ∀ v, c.FirstFault v → c.validate = .error (.config (.invalid v.message)) := by
    intro v hv
    rw [validate, hv.violation?]
  have haccepts : c.WellFormed → c.validate = .ok () := by
    intro hc
    rw [validate, hc.violation?]
  rcases c.wellFormed_or_firstFault with hc | ⟨v, hv⟩
  · refine ⟨⟨fun _ => hc, haccepts⟩, fun hnot => absurd hc hnot, fun v' hv' => ?_⟩
    rw [haccepts hc] at hv'
    cases hv'
  · have hrefused : c.validate ≠ .ok () := by
      rw [hfault v hv]
      simp
    refine ⟨⟨fun hok => absurd hok hrefused, haccepts⟩, fun _ => ⟨v, hv, hfault v hv⟩, fun v' hv' => ?_⟩
    rw [hfault v hv] at hv'
    injection hv' with hv'
    injection hv' with hv'
    injection hv' with hv'
    exact Violation.message_inj hv' ▸ hv

namespace Rehearsal

/-- Behind a good heartbeat comes one that has its name and no interval, and behind that one with a name of nothing but an
ideographic space. -/
def faulty : SupervisorConfig where
  heartbeat := [⟨"pulse", 10⟩, ⟨"pulse", 0⟩, ⟨"\u3000", 0⟩]

end Rehearsal

/-- `validate_names_first_fault` where two heartbeats are at fault, the first of them twice: its interval is named. -/
theorem validate_names_first_fault_rehearsal :
    ¬Rehearsal.faulty.WellFormed ∧
    (∃ v, Rehearsal.faulty.FirstFault v ∧ Rehearsal.faulty.validate = .error (.config (.invalid v.message))) ∧
    Rehearsal.faulty.FirstFault (.zeroInterval "pulse") := by
  have hviolation : Rehearsal.faulty.violation? = some (.zeroInterval "pulse") := by decide +kernel
  have hvalidate : Rehearsal.faulty.validate = .error (.config (.invalid (Violation.zeroInterval "pulse").message)) := by
    rw [validate, hviolation]
  obtain ⟨haccepts, hrefuses, hnames⟩ := validate_names_first_fault Rehearsal.faulty
  have hnot : ¬Rehearsal.faulty.WellFormed := by
    intro hc
    rw [haccepts.2 hc] at hvalidate
    cases hvalidate
  exact ⟨hnot, hrefuses hnot, hnames _ hvalidate⟩

end SupervisorConfig

end Supervision

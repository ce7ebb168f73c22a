import Supervision.Proofs.Machine
import Mathlib.Data.List.Basic

/-!
# The history of a component's hooks

`Hooks.recorded` are the hooks of a component that keep a record of what happens to them, beside the world. A component with
them goes through the same courses, so the record is the history of the hooks over any requests. The last call of a hook in it
tells the whole machine (`Machine.Reflects`): every way out of a request restores that, whichever hooks failed and whatever the
component answered to the message of a failure.
-/

namespace Supervision

variable {σ : Type}

namespace HookDeed

/-- The hook that was called and how it ended. -/
def call : HookDeed → Option (Phase × Except Cause Unit)
  | called phase outcome => some (phase, outcome)
  | told _ => none

/-- The last hook that was called, and how it ended. -/
def lastCall (history : List HookDeed) : Option (Phase × Except Cause Unit) :=
  (history.filterMap call).getLast?

theorem lastCall_append (history deeds : List HookDeed) :
    lastCall (history ++ deeds) = (lastCall deeds).or (lastCall history) := by
  rw [lastCall, List.filterMap_append, List.getLast?_append]
  rfl

end HookDeed

namespace Hooks

/-- A hook that is recorded when it has ended. -/
def recordCall (phase : Phase) (hook : Act σ (Except Cause Unit)) : Act (List HookDeed × σ) (Except Cause Unit) := do
  let outcome ← Part.snd.focus hook
  Part.fst.modify (· ++ [.called phase outcome])
  return outcome

/-- The hooks of a component with a record of what happens to them. -/
def recorded (hooks : Hooks σ) : Hooks (List HookDeed × σ) where
  name := hooks.name
  resettable := hooks.resettable
  start := recordCall .start hooks.start
  stop := recordCall .stop hooks.stop
  reset := recordCall .reset hooks.reset
  failed e := do
    Part.fst.modify (· ++ [.told e])
    Part.snd.focus (hooks.failed e)

/-- A stage with a record beside the world. -/
def withRecord (history : List HookDeed) (s : Stage σ) : Stage (List HookDeed × σ) :=
  ⟨(history, s.world), s.journal⟩

theorem withRecord_tell (history : List HookDeed) (s : Stage σ) (events : List Event) :
    withRecord history (s.tell events) = (withRecord history s).tell events := rfl

/-- A recorded hook ends as the hook does, and the call is on record. -/
theorem recorded_invoke {hooks : Hooks σ} {phase : Phase} {s t : Stage σ} {outcome : Except Cause Unit}
    (h : hooks.invoke phase s = .ok outcome t) (history : List HookDeed) :
    hooks.recorded.invoke phase (withRecord history s) =
      .ok outcome (withRecord (history ++ [.called phase outcome]) t) := by
  have hcall : recordCall phase (hooks.invoke phase) (withRecord history s) =
      .ok outcome (withRecord (history ++ [.called phase outcome]) t) := by
    have hfocus : (Part.snd.focus (hooks.invoke phase) : Act (List HookDeed × σ) _) (withRecord history s) =
        .ok outcome (withRecord history t) := Part.focus_ok h
    rw [recordCall, Act.bind_ok hfocus]
    rfl
  cases phase <;> exact hcall

/-- The message of a failure is on record, and answered as it was. -/
theorem recorded_failed {hooks : Hooks σ} {e : SupervisorError} {s t : Stage σ} {reply : Reply Unit}
    (h : hooks.failed e s = .ok reply t) (history : List HookDeed) :
    hooks.recorded.failed e (withRecord history s) = .ok reply (withRecord (history ++ [.told e]) t) :=
  Part.focus_ok h

end Hooks

namespace Machine

variable {hooks : Hooks σ} {r : Request}

/-- Recorded hooks carry a request to the same end. -/
theorem Carried.recorded {state : State} {s t : Stage σ} {deeds : List HookDeed} {reply : Reply Unit} {m' : Machine}
    (h : Carried hooks r state s deeds reply m' t) (history : List HookDeed) :
    Carried hooks.recorded r state (Hooks.withRecord history s) deeds reply m' (Hooks.withRecord (history ++ deeds) t) := by
  cases h with
  | done hcall =>
    rw [Hooks.withRecord_tell]
    exact .done (Hooks.recorded_invoke hcall history)
  | failed hcall htold =>
    rw [← List.singleton_append, ← List.append_assoc]
    exact .failed (Hooks.recorded_invoke hcall history) (Hooks.recorded_failed htold _)

/-- Recorded hooks go through the same course, and what happened to them is on record. -/
theorem Course.recorded {m m' : Machine} {s t : Stage σ} {deeds : List HookDeed} {reply : Reply Unit}
    (h : Course hooks r m s deeds reply m' t) (history : List HookDeed) :
    Course hooks.recorded r m (Hooks.withRecord history s) deeds reply m' (Hooks.withRecord (history ++ deeds) t) := by
  cases h with
  | refused hedge =>
    rw [List.append_nil]
    exact .refused hedge
  | direct hne hedge hend => exact .direct hne hedge (hend.recorded history)
  | resetFailed hstate hreset hcall htold =>
    rw [← List.singleton_append, ← List.append_assoc]
    exact .resetFailed hstate hreset (Hooks.recorded_invoke hcall history) (Hooks.recorded_failed htold _)
  | afterReset hstate hreset hcall hend =>
    rw [← List.singleton_append, ← List.append_assoc]
    exact .afterReset hstate hreset (Hooks.recorded_invoke hcall history) (hend.recorded _)

/-- A request that is carried out calls its hook, and no other. -/
theorem Carried.calls {state : State} {s t : Stage σ} {deeds : List HookDeed} {reply : Reply Unit} {m' : Machine}
    (h : Carried hooks r state s deeds reply m' t) : ∃ outcome, deeds.filterMap HookDeed.call = [(r.phase, outcome)] := by
  cases h with
  | done _ => exact ⟨_, rfl⟩
  | failed _ _ => exact ⟨_, rfl⟩

/-- What the last call of a hook tells of the machine behind a request. A reset that went well is never the last call: the
request that it was made for goes on. -/
inductive Reflects : Machine → Option (Phase × Except Cause Unit) → Prop where
  | fresh : Reflects ⟨.stopped, none⟩ none
  | done (r : Request) : Reflects ⟨r.goal, none⟩ (some (r.phase, .ok ()))
  | failed (phase : Phase) (cause : Cause) : Reflects ⟨.failed, some cause⟩ (some (phase, .error cause))

theorem Reflects.sound {m : Machine} {last : Option (Phase × Except Cause Unit)} (h : Reflects m last) : m.Sound := by
  cases h with
  | fresh => exact sound_default
  | done r => cases r <;> exact ⟨by decide, by decide⟩
  | failed _ _ => exact ⟨trivial, by simp⟩

/-- The machine behind a request that was carried out reflects the last call. -/
theorem Carried.reflects {state : State} {s t : Stage σ} {deeds : List HookDeed} {reply : Reply Unit} {m' : Machine}
    (h : Carried hooks r state s deeds reply m' t) (history : List HookDeed) :
    Reflects m' (HookDeed.lastCall (history ++ deeds)) := by
  rw [HookDeed.lastCall_append]
  cases h with
  | done _ => exact .done r
  | failed _ _ => exact .failed r.phase _

/-- Every course leaves a machine that reflects the last call. -/
theorem Course.reflects {m m' : Machine} {s t : Stage σ} {deeds : List HookDeed} {reply : Reply Unit}
    (h : Course hooks r m s deeds reply m' t) {history : List HookDeed} (hm : Reflects m (HookDeed.lastCall history)) :
    Reflects m' (HookDeed.lastCall (history ++ deeds)) := by
  cases h with
  | refused _ =>
    rw [List.append_nil]
    exact hm
  | direct _ _ hend => exact hend.reflects history
  | resetFailed _ _ _ _ =>
    rw [HookDeed.lastCall_append]
    exact .failed .reset _
  | afterReset _ _ _ hend =>
    rw [← List.singleton_append, ← List.append_assoc]
    exact hend.reflects _

/-- What a history of hooks tells of a machine, read off the last call of a hook. -/
structure ToldBy (m : Machine) (history : List HookDeed) : Prop where
  started : m.state = .started ↔ HookDeed.lastCall history = some (.start, .ok ())
  stopped : m.state = .stopped ↔ HookDeed.lastCall history = none ∨ HookDeed.lastCall history = some (.stop, .ok ())
  failed : m.state = .failed ↔ ∃ phase cause, HookDeed.lastCall history = some (phase, .error cause)
  settled : m.state ≠ .starting ∧ m.state ≠ .stopping
  recorded : m.failure.isSome = true ↔ m.state = .failed
  failure : ∀ cause, m.failure = some cause ↔ ∃ phase, HookDeed.lastCall history = some (phase, .error cause)

/-- A machine that reflects the last call is told by the history. -/
theorem Reflects.toldBy {m : Machine} {history : List HookDeed} (h : Reflects m (HookDeed.lastCall history)) :
    ToldBy m history := by
  have hsound := h.sound
  generalize hlast : HookDeed.lastCall history = last at h
  cases h with
  | fresh => constructor <;> simp [hlast]
  | done r => cases r <;> constructor <;> simp [hlast, Request.goal, Request.phase]
  | failed phase cause => constructor <;> simp [hlast]

variable {seat : Part σ Machine}

/-- A request to a component with a record beside the world: it ends as without the record, and the machine still reflects the
last call. -/
theorem component_recorded (hseat : seat.Lawful) (hreturn : hooks.Return) (r : Request) {s : Stage σ}
    {history : List HookDeed} (hs : Reflects (seat.get s.world) (HookDeed.lastCall history)) :
    ∃ reply deeds t, (component seat hooks).request r s = .ok reply t ∧
      (component (Part.snd.comp seat) hooks.recorded).request r (Hooks.withRecord history s) =
        .ok reply (Hooks.withRecord (history ++ deeds) t) ∧
      Reflects (seat.get t.world) (HookDeed.lastCall (history ++ deeds)) := by
  obtain ⟨deeds, reply, m', t, hcourse⟩ := exists_course hooks hreturn r (seat.get s.world) s
  refine ⟨reply, deeds, ⟨seat.set m' t.world, t.journal⟩, hcourse.component_eq rfl hs.sound, ?_, ?_⟩
  · exact (hcourse.recorded history).component_eq rfl hs.sound
  · rw [hseat.get_set]
    exact hcourse.reflects hs

/-- Requests one after another, from a machine that reflects the last call on record. -/
theorem requests_recorded (hseat : seat.Lawful) (hreturn : hooks.Return) (requests : List Request) (s : Stage σ)
    (history : List HookDeed) (hs : Reflects (seat.get s.world) (HookDeed.lastCall history)) :
    ∃ replies deeds t, requests.mapM (component seat hooks).request s = .ok replies t ∧
      requests.mapM (component (Part.snd.comp seat) hooks.recorded).request (Hooks.withRecord history s) =
        .ok replies (Hooks.withRecord (history ++ deeds) t) ∧
      Reflects (seat.get t.world) (HookDeed.lastCall (history ++ deeds)) := by
  induction requests generalizing s history with
  | nil => exact ⟨[], [], s, rfl, by rw [List.append_nil]; rfl, by rwa [List.append_nil]⟩
  | cons r requests ih =>
    obtain ⟨reply, deeds, t, hplain, hrecorded, ht⟩ := component_recorded hseat hreturn r hs
    obtain ⟨replies, deeds', u, hplain', hrecorded', hu⟩ := ih t (history ++ deeds) ht
    rw [List.append_assoc] at hrecorded' hu
    refine ⟨reply :: replies, deeds ++ deeds', u, ?_, ?_, hu⟩
    · rw [List.mapM_cons, Act.bind_ok hplain, Act.bind_ok hplain']
      rfl
    · rw [List.mapM_cons, Act.bind_ok hrecorded, Act.bind_ok hrecorded']
      rfl

/-- The state of a component is told by the history of its hooks: over any requests to a fresh machine whose hooks return,
resettable or not, however each call of them ends and whatever they answer to the message of a failure. The history is the
record that the same requests leave when the hooks are recorded. -/
theorem state_told_by_hook_history (hseat : seat.Lawful) (hreturn : hooks.Return) (requests : List Request) (s : Stage σ)
    (hfresh : seat.get s.world = {}) :
    ∃ replies history t, requests.mapM (component seat hooks).request s = .ok replies t ∧
      requests.mapM (component (Part.snd.comp seat) hooks.recorded).request ⟨([], s.world), s.journal⟩ =
        .ok replies ⟨(history, t.world), t.journal⟩ ∧
      ToldBy (seat.get t.world) history := by
  have hs : Reflects (seat.get s.world) (HookDeed.lastCall []) := hfresh ▸ .fresh
  obtain ⟨replies, history, t, hplain, hrecorded, ht⟩ := requests_recorded hseat hreturn requests s [] hs
  exact ⟨replies, history, t, hplain, hrecorded, ht.toldBy⟩

namespace Rehearsal

/-- The next call of a hook ends as the script says. -/
def next : Act (Machine × List (Except Cause Unit)) (Except Cause Unit) := do
  let script ← Part.snd.read
  Part.snd.modify List.tail
  return script.headD (.ok ())

/-- A component whose hooks end as a script beside the machine says, and which swallows the failures of its reset. -/
def scripted : Hooks (Machine × List (Except Cause Unit)) where
  name := "scripted"
  resettable := true
  start := next
  stop := next
  reset := next
  failed e :=
    match e with
    | .hook _ .reset _ => return .ok ()
    | _ => return .error e

theorem scripted_return : scripted.Return where
  invoke phase s := by cases phase <;> exact ⟨_, _, rfl⟩
  failed e s := by
    rcases e with _ | _ | _ | _ | ⟨_, phase, _⟩ | _ | _
    case hook => cases phase <;> exact ⟨_, _, rfl⟩
    all_goals exact ⟨_, _, rfl⟩

/-- A fresh machine, of whose hooks the first call goes well, the next two fail, and all others go well. -/
def stage : Stage (Machine × List (Except Cause Unit)) :=
  ⟨({}, [.ok (), .error ⟨"stuck", []⟩, .error ⟨"broken", []⟩]), []⟩

/-- What happened to a hook, with the text of what it was told. -/
def shown : HookDeed → String ⊕ Phase × Except Cause Unit
  | .called phase outcome => .inr (phase, outcome)
  | .told e => .inl e.message

/-- What is seen of requests that returned: their answers, what happened to the hooks, and the machine that is left. -/
def ending : EStateM.Result Interruption (Stage (List HookDeed × Machine × List (Except Cause Unit))) (List (Reply Unit)) →
    List (Except String Unit) × List (String ⊕ Phase × Except Cause Unit) × Machine
  | .ok replies t => (replies.map (Except.mapError SupervisorError.message), t.world.1.map shown, t.world.2.1)
  | .error _ t => ([], t.world.1.map shown, t.world.2.1)

/-- A stop that fails, a reset that fails and whose failure is swallowed, a reset that goes well, and a request out of turn. The last
call of a hook is the second start, and so the machine is started and has no failure on record. -/
theorem state_told_by_hook_history_rehearsal :
    ∃ replies history t, [.start, .stop, .stop, .start, .start].mapM (component Part.fst scripted).request stage =
        .ok replies t ∧
      [.start, .stop, .stop, .start, .start].mapM (component (Part.snd.comp Part.fst) scripted.recorded).request
          ⟨([], stage.world), stage.journal⟩ = .ok replies ⟨(history, t.world), t.journal⟩ ∧
      ToldBy t.world.1 history ∧
      replies.map (Except.mapError SupervisorError.message) = [.ok (), .error "Component 'scripted' failed during stop: stuck",
        .ok (), .ok (), .error "Undefined transition: cannot start component 'scripted' while started"] ∧
      history.map shown = [.inr (.start, .ok ()), .inr (.stop, .error ⟨"stuck", []⟩),
        .inl "Component 'scripted' failed during stop: stuck", .inr (.reset, .error ⟨"broken", []⟩),
        .inl "Component 'scripted' failed during reset: broken", .inr (.reset, .ok ()), .inr (.start, .ok ())] ∧
      t.world.1 = ⟨.started, none⟩ := by
  obtain ⟨replies, history, t, hplain, hrecorded, htold⟩ :=
    state_told_by_hook_history Part.lawful_fst scripted_return [.start, .stop, .stop, .start, .start] stage rfl
  have hending : ending ([.start, .stop, .stop, .start, .start].mapM
      (component (Part.snd.comp Part.fst) scripted.recorded).request ⟨([], stage.world), stage.journal⟩) =
        ([.ok (), .error "Component 'scripted' failed during stop: stuck", .ok (), .ok (),
            .error "Undefined transition: cannot start component 'scripted' while started"],
          [.inr (.start, .ok ()), .inr (.stop, .error ⟨"stuck", []⟩), .inl "Component 'scripted' failed during stop: stuck",
            .inr (.reset, .error ⟨"broken", []⟩), .inl "Component 'scripted' failed during reset: broken", .inr (.reset, .ok ()),
            .inr (.start, .ok ())],
          ⟨.started, none⟩) := by
    decide +kernel
  rw [hrecorded] at hending
  obtain ⟨hreplies, hrest⟩ := Prod.mk.inj hending
  obtain ⟨hhistory, hmachine⟩ := Prod.mk.inj hrest
  exact ⟨replies, history, t, hplain, hrecorded, htold, hreplies, hhistory, hmachine⟩

end Rehearsal

end Machine

end Supervision

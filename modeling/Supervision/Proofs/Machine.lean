import Supervision.Machine
import Supervision.Proofs.Act

/-!
# The courses of a request

A request to a settled machine whose hooks return takes one of four courses: it is refused, carried out at once, given up over
a failed reset, or carried out behind a reset (`Machine.Course`). Each course fixes which hooks are called, in which order and
on which stage, what the answer is, and where the machine and the world end up. Everything else about requests follows from
`Machine.request_course` and `Machine.Course.request_eq`.
-/

namespace Supervision

variable {σ : Type}

/-- The state in which a component is while a request is carried out. -/
def Request.passage : Request → State
  | .start => .starting
  | .stop => .stopping

/-- What happens to the hooks of a component: one is called and ends well or ill, or they are told of a failure. -/
inductive HookDeed where
  | called (phase : Phase) (outcome : Except Cause Unit)
  | told (error : SupervisorError)

/-- Hooks that answer whenever they are called, well or ill. -/
structure Hooks.Return (hooks : Hooks σ) : Prop where
  invoke : ∀ phase, (hooks.invoke phase).Returns
  failed : ∀ e, (hooks.failed e).Returns

/-- A request has an edge only to its own passage. -/
theorem transition_passage {state next : State} {request : Request} {resettable : Bool}
    (h : transition state request.trigger resettable = some next) : next = request.passage := by
  cases state <;> cases request <;> cases resettable <;> cases h <;> rfl

/-- Only a resettable component leaves a failure behind. -/
theorem transition_failed {next : State} {request : Request} {resettable : Bool}
    (h : transition .failed request.trigger resettable = some next) : resettable = true := by
  cases request <;> cases resettable <;> cases h <;> rfl

namespace Machine

/-- A machine at rest: it is settled, and on record is a failure exactly if it failed. -/
structure Sound (m : Machine) : Prop where
  settled : m.state.Settled
  failure : m.failure.isSome = true ↔ m.state = .failed

/-- The end of a request that is carried out from a state: what happens to the hooks, the answer, and what is left. -/
inductive Carried (hooks : Hooks σ) (r : Request) (state : State) (s : Stage σ) :
    List HookDeed → Reply Unit → Machine → Stage σ → Prop where
  | done {t : Stage σ} :
      hooks.invoke r.phase (s.tell [.stepped hooks.name state r.passage r.trigger]) = .ok (.ok ()) t →
      Carried hooks r state s [.called r.phase (.ok ())] (.ok ()) ⟨r.goal, none⟩
        (t.tell [.stepped hooks.name r.passage r.goal .completed, .settled hooks.name r.goal])
  | failed {t u : Stage σ} {cause : Cause} {reply : Reply Unit} :
      hooks.invoke r.phase (s.tell [.stepped hooks.name state r.passage r.trigger]) = .ok (.error cause) t →
      hooks.failed (.hook hooks.name r.phase cause) (t.tell [.stepped hooks.name r.passage .failed .failed]) = .ok reply u →
      Carried hooks r state s [.called r.phase (.error cause), .told (.hook hooks.name r.phase cause)] reply
        ⟨.failed, some cause⟩ u

/-- The course of a request to a machine: what happens to the hooks, the answer, and what is left. -/
inductive Course (hooks : Hooks σ) (r : Request) (m : Machine) (s : Stage σ) :
    List HookDeed → Reply Unit → Machine → Stage σ → Prop where
  /-- There is no edge. -/
  | refused : transition m.state r.trigger hooks.resettable = none →
      Course hooks r m s [] (.error (undefined hooks m.state r.trigger)) m s
  /-- There is nothing to reset. -/
  | direct {deeds : List HookDeed} {reply : Reply Unit} {m' : Machine} {t : Stage σ} :
      m.state ≠ .failed → transition m.state r.trigger hooks.resettable = some r.passage →
      Carried hooks r m.state s deeds reply m' t → Course hooks r m s deeds reply m' t
  /-- The reset fails. -/
  | resetFailed {t u : Stage σ} {cause : Cause} {reply : Reply Unit} :
      m.state = .failed → hooks.resettable = true →
      hooks.invoke .reset (s.tell [.resetting hooks.name r]) = .ok (.error cause) t →
      hooks.failed (.hook hooks.name .reset cause) t = .ok reply u →
      Course hooks r m s [.called .reset (.error cause), .told (.hook hooks.name .reset cause)] reply ⟨.failed, some cause⟩ u
  /-- The reset succeeds, and the request goes on. -/
  | afterReset {deeds : List HookDeed} {reply : Reply Unit} {m' : Machine} {t u : Stage σ} :
      m.state = .failed → hooks.resettable = true →
      hooks.invoke .reset (s.tell [.resetting hooks.name r]) = .ok (.ok ()) t →
      Carried hooks r .failed t deeds reply m' u → Course hooks r m s (.called .reset (.ok ()) :: deeds) reply m' u

variable {hooks : Hooks σ} {r : Request}

/-! ## A course is what happens -/

/-- The machine in hand is there to be read. -/
theorem current_apply (s : Stage (Machine × σ)) : (current : Act (Machine × σ) Machine) s = .ok s.world.1 s := rfl

/-- Calling a hook of a machine in hand. -/
theorem invoke_apply {phase : Phase} {m : Machine} {s t : Stage σ} {outcome : Except Cause Unit}
    (h : hooks.invoke phase s = .ok outcome t) :
    invoke hooks phase ⟨(m, s.world), s.journal⟩ = .ok outcome ⟨(m, t.world), t.journal⟩ :=
  Part.focus_ok h

/-- Taking an edge. -/
theorem step_apply (hooks : Hooks σ) (state next : State) (trigger : Trigger) (failure : Option Cause) (s : Stage σ)
    (h : transition state trigger hooks.resettable = some next) :
    step hooks trigger ⟨(⟨state, failure⟩, s.world), s.journal⟩ =
      .ok (.ok ()) ⟨(⟨next, failure⟩, s.world), s.journal ++ [.stepped hooks.name state next trigger]⟩ := by
  rw [step, Act.bind_ok (current_apply _)]
  simp only [h]
  rfl

/-- Handing over the failure on record. -/
theorem report_apply {phase : Phase} {state : State} {cause : Cause} {s u : Stage σ} {reply : Reply Unit}
    (h : hooks.failed (.hook hooks.name phase cause) s = .ok reply u) :
    report hooks phase ⟨(⟨state, some cause⟩, s.world), s.journal⟩ =
      .ok reply ⟨(⟨state, some cause⟩, u.world), u.journal⟩ := by
  rw [report, Act.bind_ok (current_apply _)]
  exact Part.focus_ok h

/-- Settling behind a hook that went well. -/
theorem settle_completed (hooks : Hooks σ) (r : Request) (s : Stage σ) :
    settle hooks r.phase ⟨(⟨r.passage, none⟩, s.world), s.journal⟩ =
      .ok (.ok ()) ⟨(⟨r.goal, none⟩, s.world),
        s.journal ++ [.stepped hooks.name r.passage r.goal .completed, .settled hooks.name r.goal]⟩ := by
  have hstep := step_apply hooks r.passage r.goal .completed none s (by cases r <;> rfl)
  rw [settle, Act.bind_ok (current_apply _)]
  simp only [Option.isSome_none, Bool.false_eq_true, if_false]
  rw [Act.andThen_ok hstep, Act.bind_ok (current_apply _), Act.bind_ok (Act.log_apply _ _), Act.pure_apply]
  simp only [List.append_assoc, List.cons_append, List.nil_append]

/-- Settling behind a hook that failed. -/
theorem settle_failed {r : Request} {cause : Cause} {s u : Stage σ} {reply : Reply Unit}
    (h : hooks.failed (.hook hooks.name r.phase cause) (s.tell [.stepped hooks.name r.passage .failed .failed]) =
      .ok reply u) :
    settle hooks r.phase ⟨(⟨r.passage, some cause⟩, s.world), s.journal⟩ =
      .ok reply ⟨(⟨.failed, some cause⟩, u.world), u.journal⟩ := by
  have hstep := step_apply hooks r.passage .failed .failed (some cause) s (by cases r <;> rfl)
  rw [settle, Act.bind_ok (current_apply _)]
  simp only [Option.isSome_some, if_true]
  rw [Act.andThen_ok hstep]
  exact report_apply h

/-- The end of a request is what carrying it out comes to. -/
theorem Carried.carryOut_eq {state : State} {s t : Stage σ} {deeds : List HookDeed} {reply : Reply Unit} {m' : Machine}
    (h : Carried hooks r state s deeds reply m' t)
    (hedge : transition state r.trigger hooks.resettable = some r.passage) :
    carryOut hooks r ⟨(⟨state, none⟩, s.world), s.journal⟩ = .ok reply ⟨(m', t.world), t.journal⟩ := by
  rw [carryOut, Act.andThen_ok (step_apply hooks state r.passage r.trigger none s hedge)]
  cases h with
  | done hcall =>
    exact (Act.bind_ok (invoke_apply hcall)).trans (settle_completed hooks r _)
  | failed hcall htold =>
    exact (Act.bind_ok (invoke_apply hcall)).trans (settle_failed htold)

/-- A course is what the request comes to. -/
theorem Course.request_eq {m m' : Machine} {s t : Stage σ} {deeds : List HookDeed} {reply : Reply Unit}
    (h : Course hooks r m s deeds reply m' t) (hm : m.Sound) :
    request hooks r ⟨(m, s.world), s.journal⟩ = .ok reply ⟨(m', t.world), t.journal⟩ := by
  obtain ⟨state, failure⟩ := m
  rw [request, Act.bind_ok (current_apply _)]
  cases h with
  | refused hedge =>
    simp only at hedge
    simp only [hedge]
    rfl
  | direct hne hedge hend =>
    simp only at hne hedge
    have hfailure : failure = none := by
      rw [← Option.not_isSome_iff_eq_none, hm.failure]
      exact hne
    simp only [hedge, hne, if_false, hfailure]
    exact hend.carryOut_eq hedge
  | resetFailed hstate hreset hcall htold =>
    simp only at hstate
    subst hstate
    have hedge : transition .failed r.trigger hooks.resettable = some r.passage := by
      rw [hreset]; cases r <;> rfl
    simp only [hedge, if_true]
    rw [Act.bind_ok (Act.log_apply _ _)]
    exact (Act.bind_ok (invoke_apply hcall)).trans (report_apply htold)
  | afterReset hstate hreset hcall hend =>
    simp only at hstate
    subst hstate
    have hedge : transition .failed r.trigger hooks.resettable = some r.passage := by
      rw [hreset]; cases r <;> rfl
    simp only [hedge, if_true]
    rw [Act.bind_ok (Act.log_apply _ _)]
    exact (Act.bind_ok (invoke_apply hcall)).trans (hend.carryOut_eq hedge)

/-- A course of the machine at a seat is what the request to its component comes to, and the machine is back at its seat. -/
theorem Course.component_eq {seat : Part σ Machine} {m m' : Machine} {s t : Stage σ} {deeds : List HookDeed}
    {reply : Reply Unit} (h : Course hooks r m s deeds reply m' t) (hseat : seat.get s.world = m) (hm : m.Sound) :
    (component seat hooks).request r s = .ok reply ⟨seat.set m' t.world, t.journal⟩ := by
  subst hseat
  exact Part.hold_ok (h.request_eq hm)

/-- A request whose hook is interrupted is interrupted. -/
theorem component_interrupted (seat : Part σ Machine) {m : Machine} {s t : Stage σ} {i : Interruption}
    (hseat : seat.get s.world = m) (hne : m.state ≠ .failed)
    (hedge : transition m.state r.trigger hooks.resettable = some r.passage)
    (hcall : hooks.invoke r.phase (s.tell [.stepped hooks.name m.state r.passage r.trigger]) = .error i t) :
    ∃ u, (component seat hooks).request r s = .error i u := by
  have hinvoke : invoke hooks r.phase ⟨(⟨r.passage, m.failure⟩, s.world),
      s.journal ++ [.stepped hooks.name m.state r.passage r.trigger]⟩ =
        .error i ⟨(⟨r.passage, m.failure⟩, t.world), t.journal⟩ := Part.focus_error hcall
  have hrequest : request hooks r ⟨(m, s.world), s.journal⟩ = .error i ⟨(⟨r.passage, m.failure⟩, t.world), t.journal⟩ := by
    rw [request, Act.bind_ok (current_apply _)]
    simp only [hedge, hne, if_false]
    rw [carryOut, Act.andThen_ok (step_apply hooks m.state r.passage r.trigger m.failure s hedge)]
    exact Act.bind_error hinvoke
  subst hseat
  exact ⟨_, Part.hold_error hrequest⟩

/-! ## Every request to a machine has a course -/

/-- Carrying a request out comes to an end when the hooks return. -/
theorem exists_carried (hooks : Hooks σ) (hreturn : hooks.Return) (r : Request) (state : State) (s : Stage σ) :
    ∃ deeds reply m' t, Carried hooks r state s deeds reply m' t := by
  obtain ⟨outcome, t, hcall⟩ := hreturn.invoke r.phase (s.tell [.stepped hooks.name state r.passage r.trigger])
  cases outcome with
  | ok _ => exact ⟨_, _, _, _, .done hcall⟩
  | error cause =>
    obtain ⟨reply, u, htold⟩ := hreturn.failed (.hook hooks.name r.phase cause)
      (t.tell [.stepped hooks.name r.passage .failed .failed])
    exact ⟨_, _, _, _, .failed hcall htold⟩

/-- A request takes one of the courses when the hooks return. -/
theorem exists_course (hooks : Hooks σ) (hreturn : hooks.Return) (r : Request) (m : Machine) (s : Stage σ) :
    ∃ deeds reply m' t, Course hooks r m s deeds reply m' t := by
  cases hedge : transition m.state r.trigger hooks.resettable with
  | none => exact ⟨_, _, _, _, .refused hedge⟩
  | some next =>
    have hnext := transition_passage hedge
    subst hnext
    by_cases hstate : m.state = .failed
    · have hreset : hooks.resettable = true := transition_failed (hstate ▸ hedge)
      obtain ⟨outcome, t, hcall⟩ := hreturn.invoke .reset (s.tell [.resetting hooks.name r])
      cases outcome with
      | ok _ =>
        obtain ⟨deeds, reply, m', u, hend⟩ := exists_carried hooks hreturn r .failed t
        exact ⟨_, _, _, _, .afterReset hstate hreset hcall hend⟩
      | error cause =>
        obtain ⟨reply, u, htold⟩ := hreturn.failed (.hook hooks.name .reset cause) t
        exact ⟨_, _, _, _, .resetFailed hstate hreset hcall htold⟩
    · obtain ⟨deeds, reply, m', t, hend⟩ := exists_carried hooks hreturn r m.state s
      exact ⟨_, _, _, _, .direct hstate hedge hend⟩

/-- A request that is carried out leaves a sound machine. -/
theorem Carried.sound {state : State} {s t : Stage σ} {deeds : List HookDeed} {reply : Reply Unit} {m' : Machine}
    (h : Carried hooks r state s deeds reply m' t) : m'.Sound := by
  cases h with
  | done _ => cases r <;> exact ⟨by decide, by decide⟩
  | failed _ _ => exact ⟨trivial, by simp⟩

/-- A machine stays sound, whatever is asked of it. -/
theorem Course.sound {m m' : Machine} {s t : Stage σ} {deeds : List HookDeed} {reply : Reply Unit}
    (h : Course hooks r m s deeds reply m' t) (hm : m.Sound) : m'.Sound := by
  cases h with
  | refused _ => exact hm
  | direct _ _ hend => exact hend.sound
  | resetFailed _ _ _ _ => exact ⟨trivial, by simp⟩
  | afterReset _ _ _ hend => exact hend.sound

/-- What outlives each call of a hook outlives a request that is carried out. -/
theorem Carried.keeps {P : σ → Prop} {state : State} {s t : Stage σ} {deeds : List HookDeed} {reply : Reply Unit}
    {m' : Machine} (h : Carried hooks r state s deeds reply m' t) (hinvoke : ∀ phase, (hooks.invoke phase).Keeps P)
    (hfailed : ∀ e, (hooks.failed e).Keeps P) (hs : P s.world) : P t.world := by
  cases h with
  | @done t hcall =>
    have ht : P t.world := (hinvoke _).of_ok hcall hs
    exact ht
  | @failed t _ _ _ hcall htold =>
    have ht : P t.world := (hinvoke _).of_ok hcall hs
    exact (hfailed _).of_ok htold ht

/-- What outlives each call of a hook outlives every course. -/
theorem Course.keeps {P : σ → Prop} {m m' : Machine} {s t : Stage σ} {deeds : List HookDeed} {reply : Reply Unit}
    (h : Course hooks r m s deeds reply m' t) (hinvoke : ∀ phase, (hooks.invoke phase).Keeps P)
    (hfailed : ∀ e, (hooks.failed e).Keeps P) (hs : P s.world) : P t.world := by
  cases h with
  | refused _ => exact hs
  | direct _ _ hend => exact hend.keeps hinvoke hfailed hs
  | resetFailed _ _ hcall htold => exact (hfailed _).of_ok htold ((hinvoke _).of_ok hcall hs)
  | afterReset _ _ hcall hend => exact hend.keeps hinvoke hfailed ((hinvoke _).of_ok hcall hs)

/-- A fresh machine is sound. -/
theorem sound_default : Sound ⟨.stopped, none⟩ :=
  ⟨trivial, by decide⟩

end Machine

end Supervision

import Supervision.Proofs.HookProtocol
import Supervision.Proofs.Stillness

/-!
# The answer to a request

A request is answered either by the machine or by the component. Where the table has no edge, the machine answers with an error
of its own and nothing else happens; where it has one, the answer is good as long as the hooks go well, and what the component
makes of the failure once one of them fails. `Machine.Settlement` are these three endings; every course of a request comes to one
of them (`Machine.Course.settlement`).

`Hooks.overheard` keeps what a component answers to its failures on record, as `Hooks.recorded` keeps the calls of its hooks.
-/

namespace Supervision

variable {σ : Type}

/-- The error of a failure that a component was told of, and what it answered. -/
structure Telling where
  error : SupervisorError
  answer : Reply Unit

/-- What was told, if the component answered so to it. -/
def HookDeed.telling (answer : Reply Unit) : HookDeed → Option Telling
  | called _ _ => none
  | told e => some ⟨e, answer⟩

namespace Hooks

/-- The hooks of a component with a record of what it answers to its failures. -/
def overheard (hooks : Hooks σ) : Hooks (List Telling × σ) where
  name := hooks.name
  resettable := hooks.resettable
  start := Part.snd.focus hooks.start
  stop := Part.snd.focus hooks.stop
  reset := Part.snd.focus hooks.reset
  failed e := do
    let answer ← Part.snd.focus (hooks.failed e)
    Part.fst.modify (· ++ [⟨e, answer⟩])
    return answer

/-- Hooks that leave their failures to the log, as all hooks do of which nothing else is said. -/
def Indifferent (hooks : Hooks σ) : Prop :=
  hooks.failed = ({ name := hooks.name, start := hooks.start, stop := hooks.stop } : Hooks σ).failed

/-- A stage with a record of answers beside the world. -/
def withTellings (tellings : List Telling) (s : Stage σ) : Stage (List Telling × σ) :=
  ⟨(tellings, s.world), s.journal⟩

theorem withTellings_tell (tellings : List Telling) (s : Stage σ) (events : List Event) :
    withTellings tellings (s.tell events) = (withTellings tellings s).tell events := rfl

variable {hooks : Hooks σ} {s t : Stage σ}

/-- To overhear answers changes nothing of the calls. -/
theorem overheard_invoke {phase : Phase} {outcome : Except Cause Unit} (h : hooks.invoke phase s = .ok outcome t)
    (tellings : List Telling) :
    hooks.overheard.invoke phase (withTellings tellings s) = .ok outcome (withTellings tellings t) := by
  cases phase <;> exact Part.focus_ok h

/-- What a component answers to a failure is its answer, and on record. -/
theorem overheard_failed {e : SupervisorError} {answer : Reply Unit} (h : hooks.failed e s = .ok answer t)
    (tellings : List Telling) :
    hooks.overheard.failed e (withTellings tellings s) = .ok answer (withTellings (tellings ++ [⟨e, answer⟩]) t) := by
  have hfocus : (Part.snd.focus (hooks.failed e) : Act (List Telling × σ) _) (withTellings tellings s) =
      .ok answer (withTellings tellings t) := Part.focus_ok h
  exact Act.bind_ok hfocus

/-- Hooks that leave a failure to the log answer with its error. -/
theorem Indifferent.answer (hi : hooks.Indifferent) {e : SupervisorError} {answer : Reply Unit}
    (h : hooks.failed e s = .ok answer t) : answer = .error e := by
  rw [hi] at h
  cases h
  rfl

end Hooks

namespace Machine

variable {hooks : Hooks σ} {r : Request} {m m' : Machine} {s t : Stage σ} {deeds : List HookDeed} {reply : Reply Unit}

/-- Where the answers are overheard, a request is carried out alike, and the only answer on record is that of the request. -/
theorem Carried.overheard {state : State} (h : Carried hooks r state s deeds reply m' t) (tellings : List Telling) :
    Carried hooks.overheard r state (Hooks.withTellings tellings s) deeds reply m'
      (Hooks.withTellings (tellings ++ deeds.filterMap (HookDeed.telling reply)) t) := by
  cases h with
  | done hcall =>
    rw [Hooks.withTellings_tell]
    have hnone : [HookDeed.called r.phase (.ok ())].filterMap (HookDeed.telling (.ok ())) = [] := rfl
    rw [hnone, List.append_nil]
    exact .done (Hooks.overheard_invoke hcall tellings)
  | failed hcall htold => exact .failed (Hooks.overheard_invoke hcall tellings) (Hooks.overheard_failed htold tellings)

/-- Where the answers are overheard, a request takes the same course, and the only answer on record is that of the request. -/
theorem Course.overheard (h : Course hooks r m s deeds reply m' t) (tellings : List Telling) :
    Course hooks.overheard r m (Hooks.withTellings tellings s) deeds reply m'
      (Hooks.withTellings (tellings ++ deeds.filterMap (HookDeed.telling reply)) t) := by
  cases h with
  | refused hedge =>
    rw [List.filterMap_nil, List.append_nil]
    exact .refused hedge
  | direct hne hedge hend => exact .direct hne hedge (hend.overheard tellings)
  | resetFailed hstate hreset hcall htold =>
    exact .resetFailed hstate hreset (Hooks.overheard_invoke hcall tellings) (Hooks.overheard_failed htold tellings)
  | afterReset hstate hreset hcall hend =>
    exact .afterReset hstate hreset (Hooks.overheard_invoke hcall tellings) (hend.overheard tellings)

/-! ## Three endings -/

/-- How a request to a machine is settled: what happened to the hooks, the answer, and the machine that is left. -/
inductive Settlement (hooks : Hooks σ) (r : Request) (m : Machine) : List HookDeed → Reply Unit → Machine → Prop where
  /-- There is no edge. -/
  | refused : transition m.state r.trigger hooks.resettable = none →
      Settlement hooks r m [] (.error (undefined hooks m.state r.trigger)) m
  /-- All hooks that were called went well. -/
  | well {deeds : List HookDeed} : transition m.state r.trigger hooks.resettable = some r.passage →
      (∀ deed ∈ deeds, ∃ phase, deed = .called phase (.ok ())) → Settlement hooks r m deeds (.ok ()) ⟨r.goal, none⟩
  /-- The last hook that was called failed, and the component answered for it. -/
  | ill {before : List HookDeed} {phase : Phase} {cause : Cause} {reply : Reply Unit} {s t : Stage σ} :
      transition m.state r.trigger hooks.resettable = some r.passage → phase = .reset ∨ phase = r.phase →
      (∀ deed ∈ before, ∃ phase, deed = .called phase (.ok ())) →
      hooks.failed (.hook hooks.name phase cause) s = .ok reply t →
      Settlement hooks r m (before ++ [.called phase (.error cause), .told (.hook hooks.name phase cause)]) reply
        ⟨.failed, some cause⟩

/-- A request that is carried out behind calls that went well is settled by its hook. -/
theorem Carried.settlement {state : State} {before : List HookDeed} (h : Carried hooks r state s deeds reply m' t)
    (hedge : transition m.state r.trigger hooks.resettable = some r.passage)
    (hbefore : ∀ deed ∈ before, ∃ phase, deed = .called phase (.ok ())) :
    Settlement hooks r m (before ++ deeds) reply m' := by
  cases h with
  | done _ =>
    refine .well hedge fun deed hdeed => ?_
    rcases List.mem_append.1 hdeed with hdeed | hdeed
    · exact hbefore deed hdeed
    · exact ⟨r.phase, List.mem_singleton.1 hdeed⟩
  | failed _ htold => exact .ill hedge (.inr rfl) hbefore htold

/-- Every course of a request comes to one of the three endings. -/
theorem Course.settlement (h : Course hooks r m s deeds reply m' t) : Settlement hooks r m deeds reply m' := by
  have hnone : ∀ deed ∈ ([] : List HookDeed), ∃ phase, deed = .called phase (.ok ()) := by simp
  cases h with
  | refused hedge => exact .refused hedge
  | direct _ hedge hend =>
    exact hend.settlement hedge hnone
  | resetFailed hstate hreset _ htold =>
    have hedge : transition m.state r.trigger hooks.resettable = some r.passage := by
      rw [hstate, hreset]
      cases r <;> rfl
    exact Settlement.ill hedge (.inl rfl) hnone htold
  | afterReset hstate hreset _ hend =>
    have hedge : transition m.state r.trigger hooks.resettable = some r.passage := by
      rw [hstate, hreset]
      cases r <;> rfl
    have hbefore : ∀ deed ∈ [HookDeed.called .reset (.ok ())], ∃ phase, deed = .called phase (.ok ()) :=
      fun deed hdeed => ⟨.reset, List.mem_singleton.1 hdeed⟩
    exact hend.settlement hedge hbefore

/-! ## What a request comes to, on record -/

/-- What is on record of a request: its answer, what happened to the hooks, and what the component answered to failures. -/
structure Hearing where
  reply : Reply Unit
  deeds : List HookDeed
  tellings : List Telling

/-- Carries a request out with hooks and answers on record. -/
def hear (seat : Part σ Machine) (hooks : Hooks σ) (r : Request) : Act σ Hearing := do
  let ((reply, tellings), deeds) ← Act.recording [] (Act.recording []
    ((component (Part.snd.comp (Part.snd.comp seat)) hooks.recorded.overheard).request r))
  return ⟨reply, deeds, tellings⟩

/-- The course of a request is what is on record of it. -/
theorem Course.hear_eq {seat : Part σ Machine} (h : Course hooks r m s deeds reply m' t) (hseat : seat.get s.world = m)
    (hm : m.Sound) :
    hear seat hooks r s =
      .ok ⟨reply, deeds, deeds.filterMap (HookDeed.telling reply)⟩ ⟨seat.set m' t.world, t.journal⟩ := by
  have hrun : (component (Part.snd.comp (Part.snd.comp seat)) hooks.recorded.overheard).request r
      ⟨([], [], s.world), s.journal⟩ = _ := ((h.recorded []).overheard []).component_eq hseat hm
  have hdeeds : Act.recording [] ((component (Part.snd.comp (Part.snd.comp seat)) hooks.recorded.overheard).request r)
      ⟨([], s.world), s.journal⟩ = _ := Act.recording_ok hrun
  rw [hear, Act.bind_ok (Act.recording_ok hdeeds)]
  rfl

/-- How the answer to a request and the machine that is left follow from what happened to the hooks. -/
structure Answered (hooks : Hooks σ) (r : Request) (m : Machine) (x : Hearing) (m' : Machine) : Prop where
  /-- Where the table has no edge, the machine says so. No hook is called, no failure told of, and nothing changes. -/
  refused : transition m.state r.trigger hooks.resettable = none →
    x = ⟨.error (.undefinedTransition hooks.name m.state r.trigger), [], []⟩ ∧ m' = m
  /-- Where it has one, the answer is good exactly if no hook failed, or the component swallowed the failure. -/
  ok_iff : transition m.state r.trigger hooks.resettable ≠ none →
    (x.reply = .ok () ↔ (∀ deed ∈ x.deeds, ¬ deed.Fails) ∨ ∃ telling ∈ x.tellings, telling.answer = .ok ())
  /-- A hook that failed was the reset or that of the request. Its error is on record, and the component was told of it, of nothing
  else, and once; what it answered is the answer. -/
  failed : ∀ phase cause, .called phase (.error cause) ∈ x.deeds →
    (phase = .reset ∨ phase = r.phase) ∧ m'.failure = some cause ∧ x.tellings = [⟨.hook hooks.name phase cause, x.reply⟩]
  /-- If no hook failed, the component was told of nothing. -/
  untold : (∀ deed ∈ x.deeds, ¬ deed.Fails) → x.tellings = []
  /-- An edge that the machine itself misses, and not the component in its answer to a failure, is one that was asked for. -/
  raised : ∀ component state trigger, x.reply = .error (.undefinedTransition component state trigger) → x.tellings = [] →
    component = hooks.name ∧ state = m.state ∧ state.Settled ∧ (trigger = .start ∨ trigger = .stop)
  /-- If failures are left to the log, the answer is good exactly if the machine is where it was to go. -/
  goal : hooks.Indifferent → transition m.state r.trigger hooks.resettable ≠ none → (x.reply = .ok () ↔ m'.state = r.goal)

theorem fails_called_error (phase : Phase) (cause : Cause) : (HookDeed.called phase (.error cause)).Fails :=
  trivial

/-- A call that went well is no failure. -/
theorem not_fails_of_well {deeds : List HookDeed} (h : ∀ deed ∈ deeds, ∃ phase, deed = .called phase (.ok ())) :
    ∀ deed ∈ deeds, ¬ deed.Fails := by
  intro deed hdeed hfails
  obtain ⟨phase, rfl⟩ := h deed hdeed
  exact hfails

/-- Calls that went well are not told of. -/
theorem tellings_of_well {deeds : List HookDeed} (h : ∀ deed ∈ deeds, ∃ phase, deed = .called phase (.ok ()))
    (reply : Reply Unit) : deeds.filterMap (HookDeed.telling reply) = [] := by
  rw [List.filterMap_eq_nil_iff]
  intro deed hdeed
  obtain ⟨phase, rfl⟩ := h deed hdeed
  rfl

theorem goal_ne_failed (r : Request) : State.failed ≠ r.goal := by
  cases r <;> simp [Request.goal]

/-- The answer follows from the ending. -/
theorem Settlement.answered (h : Settlement hooks r m deeds reply m') (hm : m.Sound) :
    Answered hooks r m ⟨reply, deeds, deeds.filterMap (HookDeed.telling reply)⟩ m' := by
  cases h with
  | refused hedge =>
    refine ⟨fun _ => ⟨rfl, rfl⟩, fun hne => absurd hedge hne, by simp, fun _ => rfl, ?_, fun _ hne => absurd hedge hne⟩
    intro component state trigger hreply _
    injection hreply with hreply
    injection hreply with hcomponent hstate htrigger
    subst hcomponent hstate htrigger
    refine ⟨rfl, rfl, hm.settled, ?_⟩
    cases r with
    | start => exact .inl rfl
    | stop => exact .inr rfl
  | well hedge hwell =>
    have hnone := not_fails_of_well hwell
    refine ⟨fun h => ?_, fun _ => iff_of_true rfl (.inl hnone), fun phase cause hcall => ?_, fun _ => tellings_of_well hwell _,
      fun _ _ _ hreply _ => ?_, fun _ _ => iff_of_true rfl rfl⟩
    · rw [hedge] at h
      cases h
    · exact absurd (fails_called_error phase cause) (hnone _ hcall)
    · cases hreply
  | @ill before phase cause reply u v hedge hphase hwell htold =>
    have hnone := not_fails_of_well hwell
    have hmem : HookDeed.called phase (.error cause) ∈
        before ++ [.called phase (.error cause), .told (.hook hooks.name phase cause)] := by simp
    have htellings : (before ++ [HookDeed.called phase (.error cause), .told (.hook hooks.name phase cause)]).filterMap
        (HookDeed.telling reply) = [⟨.hook hooks.name phase cause, reply⟩] := by
      rw [List.filterMap_append, tellings_of_well hwell]
      rfl
    rw [htellings]
    refine ⟨fun h => ?_, fun _ => ?_, fun phase' cause' hcall => ?_, fun hall => ?_, fun _ _ _ _ htold => ?_, fun hi _ => ?_⟩
    · rw [hedge] at h
      cases h
    · constructor
      · intro hok
        exact .inr ⟨_, List.mem_singleton.2 rfl, hok⟩
      · rintro (hall | ⟨telling, htelling, hok⟩)
        · exact absurd (fails_called_error phase cause) (hall _ hmem)
        · rw [List.mem_singleton.1 htelling] at hok
          exact hok
    · -- the only call that failed is the last one
      rcases List.mem_append.1 hcall with hcall | hcall
      · exact absurd (fails_called_error phase' cause') (hnone _ hcall)
      · simp only [List.mem_cons, HookDeed.called.injEq, Except.error.injEq, reduceCtorEq, List.not_mem_nil, or_false] at hcall
        obtain ⟨rfl, rfl⟩ := hcall
        exact ⟨hphase, rfl, rfl⟩
    · exact absurd (fails_called_error phase cause) (hall _ hmem)
    · cases htold
    · have hanswer := hi.answer htold
      exact iff_of_false (by simp [hanswer]) (goal_ne_failed r)

/-- The steps behind a hook have their edges, whichever request is under way. -/
theorem step_inner (hooks : Hooks σ) (r : Request) (failure : Option Cause) (s : Stage σ) :
    (∃ t, step hooks .completed ⟨(⟨r.passage, failure⟩, s.world), s.journal⟩ = .ok (.ok ()) t) ∧
      ∃ t, step hooks .failed ⟨(⟨r.passage, failure⟩, s.world), s.journal⟩ = .ok (.ok ()) t := by
  have hcompleted : transition r.passage .completed hooks.resettable = some r.goal := by cases r <;> rfl
  have hfailed : transition r.passage .failed hooks.resettable = some .failed := by cases r <;> rfl
  exact ⟨⟨_, step_apply hooks _ _ _ failure s hcompleted⟩, ⟨_, step_apply hooks _ _ _ failure s hfailed⟩⟩

/-- A component that is asked for something is refused by its machine, or answers as its hooks went: over every machine that
requests may have made of a fresh one, whatever the hooks do as long as they return. While a request is under way the machine
finds an edge for either outcome of the hook, so that all it ever refuses is the request itself. -/
theorem request_answers_for_its_hooks {seat : Part σ Machine} (hseat : seat.Lawful) (hreturn : hooks.Return) (r : Request)
    {s : Stage σ} (hs : Reached hooks (seat.get s.world)) :
    ∃ x t, hear seat hooks r s = .ok x t ∧ (component seat hooks).request r s = .ok x.reply t ∧
      Answered hooks r (seat.get s.world) x (seat.get t.world) ∧
      ∀ failure (u : Stage σ), (∃ v, step hooks .completed ⟨(⟨r.passage, failure⟩, u.world), u.journal⟩ = .ok (.ok ()) v) ∧
        ∃ v, step hooks .failed ⟨(⟨r.passage, failure⟩, u.world), u.journal⟩ = .ok (.ok ()) v := by
  have hsound := hs.sound hreturn
  obtain ⟨deeds, reply, m', t, hcourse⟩ := exists_course hooks hreturn r (seat.get s.world) s
  refine ⟨_, _, hcourse.hear_eq rfl hsound, hcourse.component_eq rfl hsound, ?_, step_inner hooks r⟩
  rw [hseat.get_set]
  exact hcourse.settlement.answered hsound

namespace Rehearsal

/-- A machine that failed to start, and whose next reset will fail as well. -/
def jammed : Stage (Machine × List (Except Cause Unit)) :=
  ⟨(⟨.failed, some ⟨"stuck", []⟩⟩, [.error ⟨"broken", []⟩]), []⟩

theorem reached_jammed : Reached scripted jammed.world.1 := by
  have hedge : transition .stopped .start scripted.resettable = some .starting := rfl
  have hcourse : Course scripted .start {} (⟨({}, [.error ⟨"stuck", []⟩]), []⟩ : Stage (Machine × List (Except Cause Unit)))
      _ _ ⟨.failed, some ⟨"stuck", []⟩⟩ _ := .direct nofun hedge (.failed rfl rfl)
  exact hcourse.reached sound_default .fresh

/-- The reset that a start asks for fails. The component swallows its failure, and so the answer is good. -/
theorem request_answers_for_its_hooks_rehearsal :
    ∃ x t, hear Part.fst scripted .start jammed = .ok x t ∧ (component Part.fst scripted).request .start jammed = .ok x.reply t ∧
      Answered scripted .start jammed.world.1 x t.world.1 ∧
      x = ⟨.ok (), [.called .reset (.error ⟨"broken", []⟩), .told (.hook "scripted" .reset ⟨"broken", []⟩)],
        [⟨.hook "scripted" .reset ⟨"broken", []⟩, .ok ()⟩]⟩ ∧
      t.world.1 = ⟨.failed, some ⟨"broken", []⟩⟩ := by
  obtain ⟨x, t, hhear, hrequest, hanswered, -⟩ :=
    request_answers_for_its_hooks (s := jammed) Part.lawful_fst scripted_return .start reached_jammed
  have hrun := hhear
  cases hrun
  exact ⟨_, _, hhear, hrequest, hanswered, rfl, rfl⟩

end Rehearsal

end Machine

end Supervision

import Supervision.Proofs.Machine
import Supervision.Proofs.Recording

/-!
# Components that panic

A panic unwinds out of a request and leaves the machine as it was when the hook was called. Behind a panic of a reset, or of the
answer to a failure, that is a failed machine like any other. Behind a panic of a start or a stop the component stays `starting`
or `stopping`, and is asked in vain from then on: the table has no edge out of these states for a request.

An `Invocation` is a call of a hook together with its ending, which may be a panic. `Machine.Stands` says which machine goes with
which invocations, and every request keeps that, whether it answers or unwinds (`Machine.request_stands`).
-/

namespace Supervision

variable {σ α β : Type}

namespace Act

/-- From a stage, a computation answers or panics, and either way it leaves such a world. -/
def EndsIn (x : Act σ α) (s : Stage σ) (P : σ → Prop) : Prop :=
  ∃ ending t, catchPanic x s = .ok ending t ∧ P t.world

variable {x : Act σ α} {f : α → Act σ β} {s t : Stage σ} {P : σ → Prop}

theorem EndsIn.of_ok {a : α} (h : x s = .ok a t) (ht : P t.world) : x.EndsIn s P :=
  ⟨.ok a, t, by rw [catchPanic, h], ht⟩

theorem EndsIn.of_panic {message : String} (h : x s = .error (.panic message) t) (ht : P t.world) : x.EndsIn s P :=
  ⟨.error message, t, by rw [catchPanic, h], ht⟩

/-- What ends in one kind of world ends in a wider one. -/
theorem EndsIn.imp {Q : σ → Prop} (h : x.EndsIn s P) (hPQ : ∀ w, P w → Q w) : x.EndsIn s Q := by
  obtain ⟨ending, t, ht, hP⟩ := h
  exact ⟨ending, t, ht, hPQ _ hP⟩

/-- A sequence unwinds with its first part. -/
theorem EndsIn.bind_panic {message : String} (h : x s = .error (.panic message) t) (ht : P t.world) :
    (x >>= f).EndsIn s P :=
  .of_panic (Act.bind_error h) ht

/-- A sequence ends as its second part does behind an answer. -/
theorem EndsIn.bind_ok {a : α} (h : x s = .ok a t) (hf : (f a).EndsIn t P) : (x >>= f).EndsIn s P := by
  obtain ⟨ending, u, hu, hP⟩ := hf
  exact ⟨ending, u, by rw [catchPanic, Act.bind_ok h]; exact hu, hP⟩

/-- A sequence that stops at errors ends as its second part does behind a value. -/
theorem EndsIn.andThen_ok {x : Act σ (Reply α)} {f : α → Act σ (Reply β)} {a : α} (h : x s = .ok (.ok a) t)
    (hf : (f a).EndsIn t P) : (Act.andThen x f).EndsIn s P :=
  EndsIn.bind_ok h hf

end Act

/-- A call of a hook, and how it ended: with its outcome, or with a panic of this text. -/
structure Invocation where
  phase : Phase
  ending : Except String (Except Cause Unit)

/-- A start or a stop that panicked. -/
def Invocation.Breaks (x : Invocation) : Prop :=
  ∃ (r : Request) (message : String), x = ⟨r.phase, .error message⟩

namespace Hooks

/-- Hooks that answer or panic whenever they are called. -/
structure ReturnOrPanic (hooks : Hooks σ) : Prop where
  invoke : ∀ phase, (Act.catchPanic (hooks.invoke phase)).Returns
  failed : ∀ e, (Act.catchPanic (hooks.failed e)).Returns

/-- A hook whose calls are recorded when they have ended, be it by a panic. -/
def witnessCall (phase : Phase) (hook : Act σ (Except Cause Unit)) : Act (List Invocation × σ) (Except Cause Unit) :=
  Act.noting (fun ending history => history ++ [⟨phase, ending⟩]) (Part.snd.focus hook)

/-- The hooks of a component with a record of their calls, those that panicked among them. -/
def witnessed (hooks : Hooks σ) : Hooks (List Invocation × σ) where
  name := hooks.name
  resettable := hooks.resettable
  start := witnessCall .start hooks.start
  stop := witnessCall .stop hooks.stop
  reset := witnessCall .reset hooks.reset
  failed e := Part.snd.focus (hooks.failed e)

variable {hooks : Hooks σ} {phase : Phase}

theorem witnessed_invoke (hooks : Hooks σ) (phase : Phase) :
    hooks.witnessed.invoke phase = witnessCall phase (hooks.invoke phase) := by
  cases phase <;> rfl

/-- A call that answers is on record with its outcome. -/
theorem witnessed_ok (history : List Invocation) {outcome : Except Cause Unit} {s t : Stage σ}
    (h : hooks.invoke phase s = .ok outcome t) :
    hooks.witnessed.invoke phase ⟨(history, s.world), s.journal⟩ =
      .ok outcome ⟨(history ++ [⟨phase, .ok outcome⟩], t.world), t.journal⟩ := by
  rw [witnessed_invoke]
  exact Act.noting_ok (Part.focus_ok h)

/-- A call that panics is on record with its text. -/
theorem witnessed_panic (history : List Invocation) {message : String} {s t : Stage σ}
    (h : hooks.invoke phase s = .error (.panic message) t) :
    hooks.witnessed.invoke phase ⟨(history, s.world), s.journal⟩ =
      .error (.panic message) ⟨(history ++ [⟨phase, .error message⟩], t.world), t.journal⟩ := by
  rw [witnessed_invoke]
  exact Act.noting_panic (Part.focus_error h)

/-- Hooks with a record do what they do without it. -/
theorem witnessed_mirrors (hooks : Hooks σ) : Mirrors Prod.snd hooks.witnessed hooks where
  name := rfl
  resettable := rfl
  invoke phase := witnessed_invoke hooks phase ▸ (Act.mirrors_focus _).noting
  failed _ := Act.mirrors_focus _

end Hooks

namespace Machine

/-- The machine that goes with a record of invocations: one at rest, or, behind a start or a stop that panicked, one that is left
where it was while that hook ran. -/
inductive Stands : Machine → List Invocation → Prop where
  | sound {m : Machine} {history : List Invocation} : m.Sound → (∀ x ∈ history, ¬ x.Breaks) → Stands m history
  | broken {history : List Invocation} (r : Request) (message : String) : (∀ x ∈ history, ¬ x.Breaks) →
      Stands ⟨r.passage, none⟩ (history ++ [⟨r.phase, .error message⟩])

variable {hooks : Hooks σ} {r : Request} {m : Machine} {history : List Invocation} {w : σ} {journal : List Event}

/-- A failed machine with a failure on record goes with any invocations of which none was a start or a stop that panicked. -/
theorem stands_failed (cause : Cause) (h : ∀ x ∈ history, ¬ x.Breaks) : Stands ⟨.failed, some cause⟩ history :=
  .sound ⟨trivial, by simp⟩ h

/-- A machine that has reached the goal of a request is sound. -/
theorem sound_goal (r : Request) : Sound ⟨r.goal, none⟩ := by
  cases r <;> exact ⟨trivial, by decide⟩

/-- The table has no edge for a request out of the midst of another one. -/
theorem transition_passage_request (r r' : Request) (resettable : Bool) :
    transition r.passage r'.trigger resettable = none := by
  cases r <;> cases r' <;> cases resettable <;> rfl

/-- An invocation that answered, or was a reset, leaves the record without a start or a stop that panicked. -/
theorem no_breaks_append {x : Invocation} (h : ∀ x ∈ history, ¬ x.Breaks) (hx : ¬ x.Breaks) :
    ∀ y ∈ history ++ [x], ¬ y.Breaks := by
  intro y hy
  rcases List.mem_append.1 hy with hy | hy
  · exact h y hy
  · rwa [List.mem_singleton.1 hy]

theorem not_breaks_ok (phase : Phase) (outcome : Except Cause Unit) : ¬ (Invocation.mk phase (.ok outcome)).Breaks := by
  simp [Invocation.Breaks]

theorem not_breaks_reset (ending : Except String (Except Cause Unit)) : ¬ (Invocation.mk .reset ending).Breaks := by
  rintro ⟨r, message, h⟩
  cases r <;> simp [Request.phase] at h

/-! ## One request -/

section Request

variable (h : hooks.ReturnOrPanic)

include h

/-- Whatever the component makes of a failure, the machine and the record stay as they are. -/
theorem report_ends (phase : Phase) (m : Machine) (history : List Invocation) (w : σ) (journal : List Event) :
    (report hooks.witnessed phase).EndsIn ⟨(m, history, w), journal⟩ fun x => x.1 = m ∧ x.2.1 = history := by
  refine .bind_ok (current_apply _) ?_
  cases hfailure : m.failure with
  | none => exact .of_ok rfl ⟨rfl, rfl⟩
  | some cause =>
    obtain ⟨reply, t, ht⟩ | ⟨message, t, ht⟩ :=
      (h.failed (.hook hooks.name phase cause)).answers_or_panics ⟨w, journal⟩
    · have htold : hooks.witnessed.failed (.hook hooks.name phase cause) ⟨(history, w), journal⟩ =
          .ok reply ⟨(history, t.world), t.journal⟩ := Part.focus_ok ht
      exact .of_ok (Part.focus_ok htold) ⟨rfl, rfl⟩
    · have htold : hooks.witnessed.failed (.hook hooks.name phase cause) ⟨(history, w), journal⟩ =
          .error (.panic message) ⟨(history, t.world), t.journal⟩ := Part.focus_error ht
      exact .of_panic (Part.focus_error htold) ⟨rfl, rfl⟩

/-- A failure on record ends in a failed machine. -/
theorem settle_ends_failed (r : Request) (cause : Cause) (history : List Invocation) (w : σ) (journal : List Event) :
    (settle hooks.witnessed r.phase).EndsIn ⟨(⟨r.passage, some cause⟩, history, w), journal⟩
      fun x => x.1 = ⟨.failed, some cause⟩ ∧ x.2.1 = history := by
  have hstep := step_apply hooks.witnessed r.passage .failed .failed (some cause) ⟨(history, w), journal⟩
    (by cases r <;> rfl)
  refine .bind_ok (current_apply _) ?_
  exact .andThen_ok hstep (report_ends h _ _ _ _ _)

/-- To carry a request out from where none is under way leaves a machine that goes with the record. -/
theorem carryOut_ends {state : State} (hedge : transition state r.trigger hooks.resettable = some r.passage)
    (hhistory : ∀ x ∈ history, ¬ x.Breaks) (w : σ) (journal : List Event) :
    (carryOut hooks.witnessed r).EndsIn ⟨(⟨state, none⟩, history, w), journal⟩ fun x => Stands x.1 x.2.1 := by
  refine .andThen_ok (step_apply hooks.witnessed state r.passage r.trigger none ⟨(history, w), journal⟩ hedge) ?_
  obtain ⟨outcome, t, ht⟩ | ⟨message, t, ht⟩ :=
    (h.invoke r.phase).answers_or_panics ⟨w, journal ++ [.stepped hooks.name state r.passage r.trigger]⟩
  · have hhistory' := no_breaks_append hhistory (not_breaks_ok r.phase outcome)
    refine .bind_ok (invoke_apply (Hooks.witnessed_ok history ht)) ?_
    cases outcome with
    | ok _ => exact .of_ok (settle_completed hooks.witnessed r _) (.sound (sound_goal r) hhistory')
    | error cause =>
      refine .bind_ok rfl ((settle_ends_failed h r cause _ t.world t.journal).imp ?_)
      rintro ⟨_, _, _⟩ ⟨rfl, rfl⟩
      exact stands_failed cause hhistory'
  · exact .bind_panic (Part.focus_error (Hooks.witnessed_panic history ht)) (.broken r message hhistory)

/-- Every request leaves a machine that goes with the record, whether it answers or unwinds. -/
theorem request_stands (r : Request) (hm : Stands m history) (w : σ) (journal : List Event) :
    (request hooks.witnessed r).EndsIn ⟨(m, history, w), journal⟩ fun x => Stands x.1 x.2.1 := by
  refine .bind_ok (current_apply _) ?_
  cases hedge : transition m.state r.trigger hooks.resettable with
  | none =>
    simp only [show hooks.witnessed.resettable = hooks.resettable from rfl, hedge]
    exact .of_ok rfl hm
  | some next =>
    simp only [show hooks.witnessed.resettable = hooks.resettable from rfl, hedge]
    obtain rfl := transition_passage hedge
    cases hm with
    | broken r' message _ => rw [transition_passage_request] at hedge; cases hedge
    | sound hsound hhistory =>
      -- a failed component is reset first, and a reset that fails or panics leaves the state it found
      by_cases hstate : m.state = .failed
      · rw [if_pos hstate]
        refine .bind_ok (Act.log_apply _ _) ?_
        obtain ⟨outcome, t, ht⟩ | ⟨message, t, ht⟩ :=
          (h.invoke .reset).answers_or_panics ⟨w, journal ++ [.resetting hooks.name r]⟩
        · have hhistory' := no_breaks_append hhistory (not_breaks_ok .reset outcome)
          refine .bind_ok (invoke_apply (Hooks.witnessed_ok history ht)) ?_
          cases outcome with
          | ok _ => exact .bind_ok rfl (carryOut_ends h hedge hhistory' t.world t.journal)
          | error cause =>
            refine .bind_ok rfl ((report_ends h .reset _ _ t.world t.journal).imp ?_)
            rintro ⟨_, _, _⟩ ⟨rfl, rfl⟩
            exact .sound ⟨hsound.settled, iff_of_true rfl hstate⟩ hhistory'
        · exact .bind_panic (Part.focus_error (Hooks.witnessed_panic history ht))
            (.sound hsound (no_breaks_append hhistory (not_breaks_reset _)))
      · have hnone : m.failure = none := by
          rw [← Option.not_isSome_iff_eq_none, hsound.failure]
          exact hstate
        rw [if_neg hstate]
        obtain ⟨state, failure⟩ := m
        cases hnone
        exact carryOut_ends h hedge hhistory w journal

end Request

/-! ## Runs -/

/-- A request of which a panic is caught. -/
def caught (seat : Part σ Machine) (hooks : Hooks σ) (r : Request) : Act σ (Except String (Reply Unit)) :=
  Act.catchPanic ((component seat hooks).request r)

variable {seat : Part σ Machine}

/-- A caught request to a component goes with the record if the machine at its seat did. -/
theorem caught_stands (hseat : seat.Lawful) (h : hooks.ReturnOrPanic) (r : Request) {s : Stage σ}
    (hs : Stands (seat.get s.world) history) :
    ∃ ending history' t, caught seat hooks r s = .ok ending t ∧
      caught (Part.snd.comp seat) hooks.witnessed r ⟨(history, s.world), s.journal⟩ =
        .ok ending ⟨(history', t.world), t.journal⟩ ∧
      Stands (seat.get t.world) history' := by
  obtain ⟨ending, u, hu, hstands⟩ := request_stands h r hs s.world s.journal
  have hwitnessed : caught (Part.snd.comp seat) hooks.witnessed r ⟨(history, s.world), s.journal⟩ =
      .ok ending ⟨(u.world.2.1, seat.set u.world.1 u.world.2.2), u.journal⟩ := by
    rw [caught, component, Part.catchPanic_hold]
    exact Part.hold_ok hu
  have hmirrors : Act.Mirrors Prod.snd (caught (Part.snd.comp seat) hooks.witnessed r) (caught seat hooks r) :=
    ((component_mirrors (Part.shows_beside seat) (Hooks.witnessed_mirrors hooks)).request r).catchPanic
  have hplain := hmirrors ⟨(history, s.world), s.journal⟩
  rw [hwitnessed] at hplain
  exact ⟨ending, u.world.2.1, ⟨seat.set u.world.1 u.world.2.2, u.journal⟩, hplain, hwitnessed,
    (hseat.get_set _ _).symm ▸ hstands⟩

/-- Caught requests one after another, from a machine that goes with the record. -/
theorem run_stands (hseat : seat.Lawful) (h : hooks.ReturnOrPanic) (requests : List Request) {s : Stage σ}
    (hs : Stands (seat.get s.world) history) :
    ∃ endings history' t, requests.mapM (caught seat hooks) s = .ok endings t ∧
      requests.mapM (caught (Part.snd.comp seat) hooks.witnessed) ⟨(history, s.world), s.journal⟩ =
        .ok endings ⟨(history', t.world), t.journal⟩ ∧
      Stands (seat.get t.world) history' := by
  induction requests generalizing s history with
  | nil => exact ⟨[], history, s, rfl, rfl, hs⟩
  | cons r requests ih =>
    obtain ⟨ending, history', t, hplain, hwitnessed, ht⟩ := caught_stands hseat h r hs
    obtain ⟨endings, history'', u, hplain', hwitnessed', hu⟩ := ih ht
    refine ⟨ending :: endings, history'', u, ?_, ?_, hu⟩
    · rw [List.mapM_cons, Act.bind_ok hplain, Act.bind_ok hplain']
      rfl
    · rw [List.mapM_cons, Act.bind_ok hwitnessed, Act.bind_ok hwitnessed']
      rfl

/-! ## What is seen behind a panic -/

theorem passage_not_settled (r : Request) : ¬ r.passage.Settled := by
  cases r <;> exact id

theorem Stands.settled_iff (h : Stands m history) : m.state.Settled ↔ ∀ x ∈ history, ¬ x.Breaks := by
  cases h with
  | sound hm hhistory => exact iff_of_true hm.settled hhistory
  | broken r message _ =>
    refine iff_of_false (passage_not_settled r) fun hnone => ?_
    exact hnone _ (List.mem_append_right _ List.mem_cons_self) ⟨r, message, rfl⟩

theorem Stands.passage_iff (h : Stands m history) (r : Request) :
    m.state = r.passage ↔ ∃ message, history.getLast? = some ⟨r.phase, .error message⟩ := by
  cases h with
  | sound hm hhistory =>
    refine iff_of_false (fun hstate => passage_not_settled r (hstate ▸ hm.settled)) ?_
    rintro ⟨message, hlast⟩
    exact hhistory _ (List.mem_of_getLast? hlast) ⟨r, message, rfl⟩
  | broken r' message _ =>
    rw [List.getLast?_append, List.getLast?_singleton]
    cases r <;> cases r' <;> simp [Request.passage, Request.phase]

/-- A machine that is not settled refuses whatever it is asked, and nothing changes. -/
theorem Stands.refuses (h : Stands m history) (hm : ¬ m.state.Settled) (r : Request) :
    transition m.state r.trigger hooks.resettable = none := by
  cases h with
  | sound hsound _ => exact absurd hsound.settled hm
  | broken r' message _ => exact transition_passage_request r' r _

/-- A component whose hooks answer or panic is found settled after every caught request, except behind a start or a stop that
panicked. There it is found where that hook left it, `starting` or `stopping`, and for good: whatever it is asked for is refused,
and nothing changes. Panics of a reset and of the answer to a failure are not seen in the state. -/
theorem settled_unless_start_or_stop_panicked (hseat : seat.Lawful) (h : hooks.ReturnOrPanic) (requests : List Request)
    (s : Stage σ) (hfresh : seat.get s.world = {}) :
    ∃ endings history t, requests.mapM (caught seat hooks) s = .ok endings t ∧
      requests.mapM (caught (Part.snd.comp seat) hooks.witnessed) ⟨([], s.world), s.journal⟩ =
        .ok endings ⟨(history, t.world), t.journal⟩ ∧
      ((seat.get t.world).state.Settled ↔ ∀ x ∈ history, ¬ x.Breaks) ∧
      (∀ r : Request, (seat.get t.world).state = r.passage ↔ ∃ message, history.getLast? = some ⟨r.phase, .error message⟩) ∧
      (¬ (seat.get t.world).state.Settled → ∀ r,
        caught seat hooks r t = .ok (.ok (.error (undefined hooks (seat.get t.world).state r.trigger))) t) := by
  have hs : Stands (seat.get s.world) [] := hfresh ▸ .sound sound_default nofun
  obtain ⟨endings, history, t, hplain, hwitnessed, ht⟩ := run_stands hseat h requests hs
  refine ⟨endings, history, t, hplain, hwitnessed, ht.settled_iff, ht.passage_iff, ?_⟩
  intro hmidst r
  have hrequest : request hooks r ⟨(seat.get t.world, t.world), t.journal⟩ =
      .ok (.error (undefined hooks (seat.get t.world).state r.trigger)) ⟨(seat.get t.world, t.world), t.journal⟩ := by
    rw [request, Act.bind_ok (current_apply _)]
    simp only [ht.refuses hmidst r]
    rfl
  have hcomponent : (component seat hooks).request r t =
      .ok (.error (undefined hooks (seat.get t.world).state r.trigger)) t := by
    have hheld : (component seat hooks).request r t = _ := Part.hold_ok hrequest
    rw [hheld, hseat.set_get]
  rw [caught, Act.catchPanic, hcomponent]

namespace Rehearsal

/-- The next call of a hook answers or panics as the script says. -/
def act : Act (Machine × List (Except String (Except Cause Unit))) (Except Cause Unit) := do
  let script ← Part.snd.read
  Part.snd.modify List.tail
  match script.headD (.ok (.ok ())) with
  | .ok outcome => return outcome
  | .error message => throw (.panic message)

/-- A resettable component whose hooks answer or panic as a script beside the machine says, and which panics over every failure. -/
def brittle : Hooks (Machine × List (Except String (Except Cause Unit))) where
  name := "brittle"
  resettable := true
  start := act
  stop := act
  reset := act
  failed _ := throw (.panic "told of a failure")

theorem brittle_returnOrPanic : brittle.ReturnOrPanic where
  invoke phase s := by
    have hact : (Act.catchPanic act).Returns := by
      rintro ⟨⟨m, script⟩, journal⟩
      rcases script with _ | ⟨_ | _, script⟩
      · exact ⟨_, _, rfl⟩
      · exact ⟨_, _, rfl⟩
      · exact ⟨_, _, rfl⟩
    cases phase <;> exact hact s
  failed e s := ⟨_, _, rfl⟩

/-- A fresh machine, and hooks of which one call fails, one panics, one goes well and one panics. -/
def brittleStage : Stage (Machine × List (Except String (Except Cause Unit))) :=
  ⟨({}, [.ok (.error ⟨"stuck", []⟩), .error "jammed", .ok (.ok ()), .error "burst"]), []⟩

/-- The state of the machine behind requests that have answered. -/
def stateBehind {ε α σ : Type} : EStateM.Result ε (Stage (Machine × σ)) α → Option State
  | .ok _ t => some t.world.1.state
  | .error _ _ => none

/-- A component that cannot be started, and panics over it. -/
def hopeless : Hooks Machine where
  name := "hopeless"
  start := throw (.panic "kaboom")
  stop := return .ok ()

theorem hopeless_returnOrPanic : hopeless.ReturnOrPanic where
  invoke phase s := by cases phase <;> exact ⟨_, _, rfl⟩
  failed e s := ⟨_, _, rfl⟩

end Rehearsal

/-- `settled_unless_start_or_stop_panicked` in the rehearsal: a start fails and the message of that panics, a reset panics, and a
stop behind a reset panics. The last request comes too late. -/
theorem settled_unless_start_or_stop_panicked_rehearsal :
    ∃ endings history t, [.start, .start, .stop, .start].mapM (caught Part.fst Rehearsal.brittle) Rehearsal.brittleStage =
        .ok endings t ∧
      [.start, .start, .stop, .start].mapM (caught (Part.snd.comp Part.fst) Rehearsal.brittle.witnessed)
          ⟨([], Rehearsal.brittleStage.world), Rehearsal.brittleStage.journal⟩ =
        .ok endings ⟨(history, t.world), t.journal⟩ ∧
      t.world.1.state = .stopping ∧ (∃ message, history.getLast? = some ⟨.stop, .error message⟩) ∧
      ¬ ∀ x ∈ history, ¬ x.Breaks := by
  obtain ⟨endings, history, t, hplain, hwitnessed, hsettled, hmidst, -⟩ := settled_unless_start_or_stop_panicked Part.lawful_fst
    Rehearsal.brittle_returnOrPanic [.start, .start, .stop, .start] Rehearsal.brittleStage rfl
  have hbehind : Rehearsal.stateBehind
      ([.start, .start, .stop, .start].mapM (caught Part.fst Rehearsal.brittle) Rehearsal.brittleStage) = some .stopping := by
    decide +kernel
  rw [hplain] at hbehind
  have hstate : t.world.1.state = .stopping := Option.some.inj hbehind
  refine ⟨endings, history, t, hplain, hwitnessed, hstate, (hmidst .stop).1 hstate, ?_⟩
  intro hnone
  have hsound : t.world.1.state.Settled := hsettled.2 hnone
  rw [hstate] at hsound
  exact passage_not_settled .stop hsound

/-- A panic does expose an intermediate state: a component that panics over its start is left `starting`. -/
theorem start_panic_exposes_starting :
    ¬ ∀ hooks : Hooks Machine, hooks.ReturnOrPanic → ∀ (requests : List Request) (endings : List (Except String (Reply Unit)))
      (t : Stage Machine), requests.mapM (caught Part.whole hooks) ⟨{}, []⟩ = .ok endings t → t.world.state.Settled := by
  intro hsettled
  have hstart : caught Part.whole Rehearsal.hopeless .start ⟨{}, []⟩ =
      .ok (.error "kaboom") ⟨⟨.starting, none⟩, [.stepped "hopeless" .stopped .starting .start]⟩ := rfl
  have hrun : [Request.start].mapM (caught Part.whole Rehearsal.hopeless) ⟨{}, []⟩ =
      .ok [.error "kaboom"] ⟨⟨.starting, none⟩, [.stepped "hopeless" .stopped .starting .start]⟩ := by
    rw [List.mapM_cons, Act.bind_ok hstart]
    rfl
  exact hsettled Rehearsal.hopeless Rehearsal.hopeless_returnOrPanic [.start] _ _ hrun

end Machine

end Supervision

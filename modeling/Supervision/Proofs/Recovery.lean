import Supervision.Proofs.Heartbeat
import Supervision.Proofs.HookProtocol
import Supervision.Proofs.Stillness
import Supervision.Proofs.Unwinding

/-!
# Recovery of a supervised set

A stop followed by a start brings back every state machine that a manager holds, as soon as no hook fails: whatever state a machine
was in, and whatever the stop answered. The one that stays behind is the machine that failed and cannot be reset (`Fleet.Stuck`),
and the answer to the start names those and no other.

`Machine.served` is what a request makes of a machine none of whose hooks fails on the way (`Machine.Course.serves`). In a pass of a
manager each machine has one turn (`Fleet.pass_serves`), so that the end of two passes can be read off the states before the first.
Whether a hook has failed is read off the record of the calls that were made. What it would answer at another time is left open: a
heartbeat refuses a start as long as its worker runs (`Fleet.discreet_heartbeat`).
-/

namespace Supervision

variable {σ κ ι : Type}

namespace Machine

variable {hooks : Hooks σ} {r : Request}

/-! ## What requests leave -/

/-- The machines that requests leave of a fresh one, whatever the world is like when each of them comes, and whether it is
answered or interrupted. -/
inductive Left (hooks : Hooks σ) : Machine → Prop where
  | fresh : Left hooks {}
  | request {m : Machine} (r : Request) (s : Stage σ) : Left hooks m →
      Left hooks ((request hooks r).leaves ⟨(m, s.world), s.journal⟩).world.1

/-- A machine at rest, or one that was left in the midst of a request. -/
def Intact (m : Machine) : Prop :=
  m.Sound ∨ ∃ r : Request, m = ⟨r.passage, none⟩

theorem sound_failed (cause : Cause) : Sound ⟨.failed, some cause⟩ :=
  ⟨trivial, by simp⟩

/-- Whatever becomes of the message of a failure, the machine stays as it is. -/
theorem leaves_report (phase : Phase) (s : Stage (Machine × σ)) :
    ((report hooks phase).leaves s).world.1 = s.world.1 := by
  rw [report, Act.leaves_congr (Act.bind_ok (current_apply s))]
  cases s.world.1.failure with
  | none => rfl
  | some cause =>
    simp only [Part.leaves_focus]
    rfl

/-- A failure on record is settled by a failed machine. -/
theorem leaves_settle_failed (r : Request) (cause : Cause) (s : Stage σ) :
    ((settle hooks r.phase).leaves ⟨(⟨r.passage, some cause⟩, s.world), s.journal⟩).world.1 = ⟨.failed, some cause⟩ := by
  have hstep := step_apply hooks r.passage .failed .failed (some cause) s (by cases r <;> rfl)
  have hsettle : settle hooks r.phase ⟨(⟨r.passage, some cause⟩, s.world), s.journal⟩ =
      report hooks r.phase ⟨(⟨.failed, some cause⟩, s.world), s.journal ++ [.stepped hooks.name r.passage .failed .failed]⟩ := by
    rw [settle, Act.bind_ok (current_apply _)]
    exact Act.andThen_ok hstep
  rw [Act.leaves_congr hsettle, leaves_report]

/-- To carry a request out leaves the machine where it was to go, or failed, or in the midst of the request. -/
theorem carryOut_leaves_intact {state : State} (hedge : transition state r.trigger hooks.resettable = some r.passage)
    (s : Stage σ) : Intact ((carryOut hooks r).leaves ⟨(⟨state, none⟩, s.world), s.journal⟩).world.1 := by
  rw [carryOut, Act.leaves_congr (Act.andThen_ok (step_apply hooks state r.passage r.trigger none s hedge))]
  cases hcall : hooks.invoke r.phase ⟨s.world, s.journal ++ [.stepped hooks.name state r.passage r.trigger]⟩ with
  | ok outcome t =>
    rw [Act.leaves_congr (Act.bind_ok (invoke_apply hcall))]
    cases outcome with
    | ok _ =>
      rw [Act.leaves_of_ok (settle_completed hooks r t)]
      exact .inl (sound_goal r)
    | error cause =>
      have hsettled : ((settle hooks r.phase).leaves ⟨(⟨r.passage, some cause⟩, t.world), t.journal⟩).world.1 = _ :=
        leaves_settle_failed r cause t
      exact .inl (hsettled ▸ sound_failed cause)
  | error i t =>
    have hinvoke : invoke hooks r.phase ⟨(⟨r.passage, none⟩, s.world),
        s.journal ++ [.stepped hooks.name state r.passage r.trigger]⟩ = .error i ⟨(⟨r.passage, none⟩, t.world), t.journal⟩ :=
      Part.focus_error hcall
    rw [Act.leaves_of_error (Act.bind_error hinvoke)]
    exact .inr ⟨r, rfl⟩

/-- Every request leaves an intact machine intact, whatever the hooks do. -/
theorem request_leaves_intact (r : Request) {m : Machine} (hm : m.Intact) (s : Stage σ) :
    Intact ((request hooks r).leaves ⟨(m, s.world), s.journal⟩).world.1 := by
  rw [request, Act.leaves_congr (Act.bind_ok (current_apply _))]
  obtain ⟨state, failure⟩ := m
  cases hedge : transition state r.trigger hooks.resettable with
  | none => exact hm
  | some next =>
    obtain rfl := transition_passage hedge
    simp only
    rcases hm with hsound | ⟨r', hmidst⟩
    · by_cases hstate : state = .failed
      · subst hstate
        rw [if_pos rfl, Act.leaves_congr (Act.bind_ok (Act.log_apply _ _))]
        cases hcall : hooks.invoke .reset ⟨s.world, s.journal ++ [.resetting hooks.name r]⟩ with
        | ok outcome t =>
          rw [Act.leaves_congr (Act.bind_ok (invoke_apply hcall))]
          cases outcome with
          | ok _ => exact carryOut_leaves_intact hedge t
          | error cause =>
            have hreported : ((report hooks .reset).leaves ⟨(⟨.failed, some cause⟩, t.world), t.journal⟩).world.1 = _ :=
              leaves_report .reset _
            exact .inl (hreported ▸ sound_failed cause)
        | error i t =>
          -- an interrupted reset leaves the machine that it was to reset
          have hinvoke : invoke hooks .reset ⟨(⟨.failed, failure⟩, s.world), s.journal ++ [.resetting hooks.name r]⟩ =
              .error i ⟨(⟨.failed, failure⟩, t.world), t.journal⟩ := Part.focus_error hcall
          rw [Act.leaves_of_error (Act.bind_error hinvoke)]
          exact .inl hsound
      · have hnone : failure = none := by
          rw [← Option.not_isSome_iff_eq_none, hsound.failure]
          exact hstate
        subst hnone
        rw [if_neg hstate]
        exact carryOut_leaves_intact hedge s
    · cases hmidst
      rw [transition_passage_request] at hedge
      cases hedge

theorem Left.intact {m : Machine} (h : Left hooks m) : m.Intact := by
  induction h with
  | fresh => exact .inl sound_default
  | request r s _ ih => exact request_leaves_intact r ih s

/-- A machine that requests left is at rest, unless it was left in the midst of one. -/
theorem Left.sound {m : Machine} (h : Left hooks m) (hm : m.state.Settled) : m.Sound := by
  rcases h.intact with hsound | ⟨r, rfl⟩
  · exact hsound
  · cases r <;> exact hm.elim

/-! ## One machine of whose hooks none fails -/

/-- What a request to a machine comes to if none of its hooks fails: the answer, and the machine that is left. -/
def served (hooks : Hooks σ) (r : Request) (m : Machine) : Reply Unit × Machine :=
  if transition m.state r.trigger hooks.resettable = none then (.error (undefined hooks m.state r.trigger), m)
  else (.ok (), ⟨r.goal, none⟩)

/-- A machine that will not leave its failure. -/
def Stuck (hooks : Hooks σ) (m : Machine) : Prop :=
  m.state = .failed ∧ hooks.resettable = false

instance (hooks : Hooks σ) (m : Machine) : Decidable (Stuck hooks m) :=
  inferInstanceAs (Decidable (_ ∧ _))

/-- What a request makes of a machine and of the history of its hooks. What happens to the hooks joins the history; if none of them
fails the machine is served, and no hook is called if it is refused. -/
def Serving (hooks : Hooks σ) (r : Request) (reply : Reply Unit) (q q' : List HookDeed × Machine) : Prop :=
  ∃ deeds, q'.1 = q.1 ++ deeds ∧
    ((∀ deed ∈ deeds, ¬ deed.Fails) → (reply, q'.2) = served hooks r q.2 ∧ (reply ≠ .ok () → deeds = []))

/-- A request that is carried out with no hook that fails takes the machine where it was to go. -/
theorem Carried.serves {state : State} {s t : Stage σ} {deeds : List HookDeed} {reply : Reply Unit} {m' : Machine}
    (h : Carried hooks r state s deeds reply m' t) (hwell : ∀ deed ∈ deeds, ¬ deed.Fails) :
    (reply, m') = (.ok (), ⟨r.goal, none⟩) := by
  cases h with
  | done _ => rfl
  | failed _ _ => exact absurd trivial (hwell _ List.mem_cons_self)

/-- A request that takes a course with no hook that fails serves the machine. One that is refused calls no hook. -/
theorem Course.serves {m m' : Machine} {s t : Stage σ} {deeds : List HookDeed} {reply : Reply Unit}
    (h : Course hooks r m s deeds reply m' t) (hwell : ∀ deed ∈ deeds, ¬ deed.Fails) :
    (reply, m') = served hooks r m ∧ (reply ≠ .ok () → deeds = []) := by
  unfold served
  cases h with
  | refused hedge => exact ⟨(if_pos hedge).symm, fun _ => rfl⟩
  | direct _ hedge hend =>
    have hserved := hend.serves hwell
    rw [if_neg (by simp [hedge])]
    exact ⟨hserved, fun hne => absurd (congrArg Prod.fst hserved) hne⟩
  | resetFailed _ _ _ _ => exact absurd trivial (hwell _ List.mem_cons_self)
  | afterReset hstate hreset _ hend =>
    have hserved := hend.serves fun deed hdeed => hwell deed (List.mem_cons_of_mem _ hdeed)
    have hedge : transition m.state r.trigger hooks.resettable ≠ none := by
      rw [hstate, hreset]
      cases r <;> nofun
    rw [if_neg hedge]
    exact ⟨hserved, fun hne => absurd (congrArg Prod.fst hserved) hne⟩

theorem served_of_stuck {m : Machine} (h : Stuck hooks m) : served hooks r m = (.error (undefined hooks m.state r.trigger), m) := by
  rw [served, h.1, h.2]
  cases r <;> rfl

/-- A stop and then a start bring a machine at rest back, unless it is stuck. -/
theorem served_start_served_stop (hooks : Hooks σ) {m : Machine} (hm : m.Sound) :
    served hooks .start (served hooks .stop m).2 =
      if Stuck hooks m then (.error (.undefinedTransition hooks.name .failed .start), m) else (.ok (), ⟨.started, none⟩) := by
  have hsettled := hm.settled
  obtain ⟨state, failure⟩ := m
  cases state with
  | starting => exact hsettled.elim
  | stopping => exact hsettled.elim
  | stopped => simp [served, Stuck, transition, Request.trigger, Request.goal]
  | started => simp [served, Stuck, transition, Request.trigger, Request.goal]
  | failed =>
    cases hreset : hooks.resettable with
    | false => simp [served, Stuck, hreset, transition, Request.trigger, undefined]
    | true => simp [served, Stuck, hreset, transition, Request.trigger, Request.goal]

end Machine

/-! ## Heartbeats -/

/-- The hooks of a heartbeat keep to themselves, if its name can be that of a thread, and its pulse and the threads are kept apart
from what the supervisor keeps. -/
theorem Fleet.discreet_heartbeat {fleet : Fleet σ ι} {tree : Tree σ κ ι} {i : ι} {heartbeat : Heartbeat}
    {pulse : Part σ Pulse} {host : Part σ ThreadHost} (hhooks : fleet.hooks i = heartbeat.hooks pulse (ThreadHost.threads host))
    (hhost : host.Lawful) (hname : '\x00' ∉ heartbeat.name.toList) (hpulse : ∀ p w, fleet.Spared tree w (pulse.set p w))
    (hthreads : ∀ threads w, fleet.Spared tree w (host.set threads w)) : fleet.Discreet tree i := by
  have hnul : ThreadHost.nulPosition? heartbeat.threadName = none := by
    rwa [ThreadHost.nulPosition?_eq_none, Heartbeat.nul_mem_threadName]
  have hspawn : ∀ s, ∃ outcome threads, (ThreadHost.threads host).spawn heartbeat.threadName s =
      .ok outcome ⟨host.set threads s.world, s.journal⟩ := ThreadHost.spawn_apply hhost hnul
  refine ⟨?_, fun phase s => ?_, fun e s => ?_⟩
  · rw [hhooks]
    refine Heartbeat.hooks_return (fun s => ?_) (fun s => ⟨_, _, rfl⟩) fun s => ⟨_, _, rfl⟩
    obtain ⟨outcome, _, h⟩ := hspawn s
    exact ⟨outcome, _, h⟩
  · rw [hhooks]
    refine Heartbeat.invoke_keeps (P := fleet.Spared tree s.world) (fun p w h => h.trans (hpulse p w)) (fun u h => ?_)
      (fun u h => h.trans (hthreads _ _)) (fun u h => h.trans (hthreads _ _)) phase s (Fleet.spared_refl _)
    obtain ⟨_, threads, hspawned⟩ := hspawn u
    rw [Act.leaves_of_ok hspawned]
    exact h.trans (hthreads threads _)
  · rw [hhooks]
    exact Fleet.spared_refl _

/-! ## One pass -/

/-- The failures among visits of which some went well. -/
theorem Batch.failures_map (name : ι → String) (r : Request) (p : ι → Prop) [DecidablePred p] (e : ι → SupervisorError)
    (ks : List ι) :
    Batch.failures name (ks.map fun i => ⟨i, r, if p i then .error (e i) else .ok ()⟩) =
      (ks.filter fun i => p i).map fun i => (name i, e i) := by
  induction ks with
  | nil => rfl
  | cons k ks ih =>
    by_cases hk : p k
    · rw [List.map_cons, if_pos hk, failures_cons_error, ih, List.filter_cons_of_pos (by simpa using hk), List.map_cons]
    · rw [List.map_cons, if_neg hk, failures_cons_ok, ih, List.filter_cons_of_neg (by simpa using hk)]

/-- Where each component has one visit at most, the visits are told by who was visited and what each of them answered. -/
theorem Visit.exists_replies [DecidableEq ι] {r : Request} {visits : List (Visit ι)} (hrequest : ∀ v ∈ visits, v.request = r)
    (honce : (visits.map Visit.whom).Nodup) :
    ∃ reply : ι → Reply Unit, visits = (visits.map Visit.whom).map fun i => ⟨i, r, reply i⟩ := by
  induction visits with
  | nil => exact ⟨fun _ => .ok (), rfl⟩
  | cons v visits ih =>
    rw [List.map_cons, List.nodup_cons] at honce
    obtain ⟨reply, hreply⟩ := ih (fun v hv => hrequest v (List.mem_cons_of_mem _ hv)) honce.2
    refine ⟨Function.update reply v.whom v.reply, ?_⟩
    rw [List.map_cons, List.map_cons, Function.update_self, ← hrequest v List.mem_cons_self]
    refine congrArg (v :: ·) (hreply.trans (List.map_congr_left fun i hi => ?_))
    have hne : i ≠ v.whom := fun h => honce.1 (h ▸ hi)
    rw [Function.update_of_ne hne, hrequest v List.mem_cons_self]

/-- Stops what a manager holds, whatever comes of it, and starts it again. -/
def Manager.restart (manager : Manager σ κ) : Act σ (Reply Unit) := do
  let _ ← manager.request .stop
  manager.request .start

theorem Manager.Mirrors.restart {τ : Type} {view : τ → σ} {outer : Manager τ κ} {inner : Manager σ κ}
    (h : Manager.Mirrors view outer inner) : Act.Mirrors view outer.restart inner.restart :=
  (h.request .stop).bind fun _ => h.request .start

namespace Fleet

/-- In its turn a machine is served unless one of its hooks fails, and nothing happens to the others. -/
structure Serves (fleet : Fleet σ ι) (members : List ι) (v : Visit ι) (p p' : (ι → List HookDeed) × σ) : Prop where
  own : Machine.Serving (fleet.hooks v.whom) v.request v.reply (p.1 v.whom, (fleet.machine v.whom).get p.2)
    (p'.1 v.whom, (fleet.machine v.whom).get p'.2)
  others : ∀ j ∈ members, j ≠ v.whom → p'.1 j = p.1 j ∧ (fleet.machine j).get p'.2 = (fleet.machine j).get p.2

variable {fleet : Fleet σ ι} {seat : Part σ (Registry ι)} {w : σ}

theorem leaves_manager (seat : Part σ (Registry ι)) (w : σ) :
    (Tree.manager seat Tree.leaf : Tree σ ι ι).leaves w = (seat.get w).members :=
  List.flatMap_singleton' _

/-- The failures of a start that is refused by the stuck machines, in the order of their registration. -/
def stuckFailures (fleet : Fleet σ ι) (seat : Part σ (Registry ι)) (w : σ) : List (String × SupervisorError) :=
  ((seat.get w).members.filter fun i => Machine.Stuck (fleet.hooks i) ((fleet.machine i).get w)).map
    fun i => ((fleet.hooks i).name, .undefinedTransition (fleet.hooks i).name .failed .start)

theorem stuckFailures_eq_nil :
    fleet.stuckFailures seat w = [] ↔ ∀ i ∈ (seat.get w).members, ¬ Machine.Stuck (fleet.hooks i) ((fleet.machine i).get w) := by
  rw [stuckFailures, List.map_eq_nil_iff, List.filter_eq_nil_iff]
  simp

/-- Where a start is refused by the stuck machines and no others, these are its failures. -/
theorem failures_of_stuck {started : ι → Reply Unit}
    (h : ∀ i ∈ (seat.get w).members, started i = if Machine.Stuck (fleet.hooks i) ((fleet.machine i).get w) then
      .error (.undefinedTransition (fleet.hooks i).name .failed .start) else .ok ()) :
    Batch.failures (fun i => (fleet.hooks i).name) ((seat.get w).members.map fun i => ⟨i, .start, started i⟩) =
      fleet.stuckFailures seat w := by
  rw [stuckFailures, ← Batch.failures_map (fun i => (fleet.hooks i).name) .start]
  exact congrArg _ (List.map_congr_left fun i hi => by rw [h i hi])

variable [DecidableEq ι]

/-- A request to a machine at rest is a turn of it, and leaves all machines at rest. -/
theorem recorded_serves (hapart : fleet.Apart (Tree.manager seat Tree.leaf))
    (hdiscreet : ∀ i ∈ (seat.get w).members, fleet.Discreet (Tree.manager seat Tree.leaf) i) (r : Request) {i : ι}
    (hi : i ∈ (seat.get w).members) {u : Stage ((ι → List HookDeed) × σ)}
    (hu : fleet.AtRest (Tree.manager seat Tree.leaf) w u.world.2) :
    ∃ reply t, (fleet.recorded i).request r u = .ok reply t ∧
      fleet.Serves (seat.get w).members ⟨i, r, reply⟩ u.world t.world ∧
      fleet.AtRest (Tree.manager seat Tree.leaf) w t.world.2 := by
  obtain ⟨deeds, reply, m', t, hcourse⟩ := Machine.exists_course (fleet.hooks i) (hdiscreet i hi).returns r
    ((fleet.machine i).get u.world.2) ⟨u.world.2, u.journal⟩
  have hspared : fleet.Spared (Tree.manager seat Tree.leaf) u.world.2 t.world :=
    hcourse.keeps (fun phase => ((hdiscreet i hi).invoke phase).keeps fun _ _ h h' => h'.trans h)
      (fun e => ((hdiscreet i hi).failed e).keeps fun _ _ h h' => h'.trans h) (spared_refl _)
  rw [← leaves_manager] at hi
  obtain ⟨v, hv, -, hhistory, hmachine, hothers, hrest⟩ := recorded_course hapart hi hu hcourse hspared
  rw [leaves_manager] at hothers
  refine ⟨reply, v, hv, ⟨⟨deeds, hhistory, ?_⟩, hothers⟩, hrest⟩
  rw [hmachine]
  exact hcourse.serves

/-- In a pass of a manager each of its machines has one turn, which finds it as it is when the pass begins. -/
theorem pass_serves (hapart : fleet.Apart (Tree.manager seat Tree.leaf))
    (hdiscreet : ∀ i ∈ (seat.get w).members, fleet.Discreet (Tree.manager seat Tree.leaf) i) (r : Request)
    {u : Stage ((ι → List HookDeed) × σ)} (hu : fleet.AtRest (Tree.manager seat Tree.leaf) w u.world.2) :
    ∃ (reply : ι → Reply Unit) (t : Stage ((ι → List HookDeed) × σ)),
      (Manager.mk (Part.snd.comp seat) fleet.recorded).request r u = .ok (Batch.verdict r (Batch.failures
        (fun i => (fleet.hooks i).name) ((Batch.order r (seat.get w).members).map fun i => ⟨i, r, reply i⟩))) t ∧
      fleet.AtRest (Tree.manager seat Tree.leaf) w t.world.2 ∧
      ∀ i ∈ (seat.get w).members, Machine.Serving (fleet.hooks i) r (reply i) (u.world.1 i, (fleet.machine i).get u.world.2)
        (t.world.1 i, (fleet.machine i).get t.world.2) := by
  have hmembers : (seat.get u.world.2).members = (seat.get w).members := by rw [hu.unmoved.1]
  obtain ⟨visits, t, ht, hpasses, hwhom, hrequest, hrest⟩ := Batch.run_visits
    (I := fun p : (ι → List HookDeed) × σ => fleet.AtRest (Tree.manager seat Tree.leaf) w p.2)
    (seat.get w).members (fun i hi s hs => recorded_serves hapart hdiscreet r hi hs) u hu
  have honce : (visits.map Visit.whom).Nodup := by
    rw [hwhom]
    exact Batch.nodup_order r (seat.get w).nodup
  obtain ⟨heach, -⟩ := Passes.each Visit.whom (fun i p => (p.1 i, (fleet.machine i).get p.2))
    (fun v q q' => Machine.Serving (fleet.hooks v.whom) v.request v.reply q q') (· ∈ (seat.get w).members)
    (fun _ _ _ h => ⟨h.own, fun j hj hne => Prod.ext (h.others j hj hne).1 (h.others j hj hne).2⟩) hpasses honce
  obtain ⟨reply, hreply⟩ := Visit.exists_replies hrequest honce
  rw [hwhom] at hreply
  refine ⟨reply, t, ?_, hrest, fun i hi => ?_⟩
  · rw [← hreply, Manager.request_apply]
    change Batch.run r ((seat.get u.world.2).members.map fleet.recorded) u = _
    rw [hmembers]
    exact ht
  · have hturn : (⟨i, r, reply i⟩ : Visit ι) ∈ visits := by
      rw [hreply]
      exact List.mem_map_of_mem (Batch.mem_order.2 hi)
    exact heach _ hturn hi

/-! ## A stop and a start -/

/-- What a stop and then a start make of the machines that a manager holds. -/
structure Recovered (fleet : Fleet σ ι) (seat : Part σ (Registry ι)) (w : σ) (reply : Reply Unit) (history : ι → List HookDeed)
    (w' : σ) : Prop where
  /-- The manager holds what it held. -/
  held : seat.get w' = seat.get w
  /-- Every machine runs, and has no failure on record, but for those that are stuck. -/
  started : ∀ i ∈ (seat.get w).members, ¬ Machine.Stuck (fleet.hooks i) ((fleet.machine i).get w) →
    (fleet.machine i).get w' = ⟨.started, none⟩
  /-- A stuck machine is as it was, and none of its hooks was called. -/
  stuck : ∀ i ∈ (seat.get w).members, Machine.Stuck (fleet.hooks i) ((fleet.machine i).get w) →
    (fleet.machine i).get w' = (fleet.machine i).get w ∧ history i = []
  /-- The start goes well exactly if no machine is stuck. -/
  ok_iff : reply = .ok () ↔ ∀ i ∈ (seat.get w).members, ¬ Machine.Stuck (fleet.hooks i) ((fleet.machine i).get w)
  /-- Otherwise its failures are the stuck machines, and no others. -/
  failures : reply ≠ .ok () → reply = .error (.batch .start (fleet.stuckFailures seat w))

/-- What two turns make of a machine at rest none of whose hooks fails: a stop and then a start bring it back, unless it is
stuck. A stuck machine is left alone by both. -/
theorem serving_twice {hooks : Hooks σ} {stopped started : Reply Unit} {m : Machine} {q q' : List HookDeed × Machine}
    (hm : m.Sound) (hstop : Machine.Serving hooks .stop stopped ([], m) q) (hstart : Machine.Serving hooks .start started q q')
    (hwell : ∀ deed ∈ q'.1, ¬ deed.Fails) :
    started = (if Machine.Stuck hooks m then .error (.undefinedTransition hooks.name .failed .start) else .ok ()) ∧
      (¬ Machine.Stuck hooks m → q'.2 = ⟨.started, none⟩) ∧ (Machine.Stuck hooks m → q' = ([], m)) := by
  obtain ⟨deeds, hfirst, hstop⟩ := hstop
  obtain ⟨deeds', hsecond, hstart⟩ := hstart
  rw [hfirst, List.nil_append] at hsecond
  rw [hsecond] at hwell
  obtain ⟨hstopped, hunstopped⟩ := hstop fun deed hdeed => hwell deed (List.mem_append_left _ hdeed)
  obtain ⟨hstarted, hunstarted⟩ := hstart fun deed hdeed => hwell deed (List.mem_append_right _ hdeed)
  have htwice := Machine.served_start_served_stop hooks hm
  rw [← hstopped, ← hstarted] at htwice
  by_cases hstuck : Machine.Stuck hooks m
  · rw [if_pos hstuck] at htwice ⊢
    obtain ⟨hreply, hmachine⟩ := Prod.mk.inj htwice
    rw [Machine.served_of_stuck hstuck] at hstopped
    have hnone : deeds = [] := hunstopped (by simp [(Prod.mk.inj hstopped).1])
    have hnone' : deeds' = [] := hunstarted (by simp [hreply])
    exact ⟨hreply, absurd hstuck, fun _ => Prod.ext (by rw [hsecond, hnone, hnone']; rfl) hmachine⟩
  · rw [if_neg hstuck] at htwice ⊢
    obtain ⟨hreply, hmachine⟩ := Prod.mk.inj htwice
    exact ⟨hreply, fun _ => hmachine, fun h => absurd h hstuck⟩

/-- What the start finds is what the stop left, so that both can be read off the machines before them. -/
theorem restart_serves (hapart : fleet.Apart (Tree.manager seat Tree.leaf))
    (hdiscreet : ∀ i ∈ (seat.get w).members, fleet.Discreet (Tree.manager seat Tree.leaf) i)
    (hsound : ∀ i ∈ (seat.get w).members, ((fleet.machine i).get w).Sound) (journal : List Event) :
    ∃ reply t, (Manager.mk (Part.snd.comp seat) fleet.recorded).restart ⟨(fun _ => [], w), journal⟩ = .ok reply t ∧
      ((∀ i ∈ (seat.get w).members, ∀ deed ∈ t.world.1 i, ¬ deed.Fails) →
        fleet.Recovered seat w reply t.world.1 t.world.2) := by
  have hrest : fleet.AtRest (Tree.manager seat Tree.leaf) w w :=
    ⟨Tree.unmoved_refl _ _, fun i hi => hsound i (by rwa [leaves_manager] at hi)⟩
  obtain ⟨stopped, t, hstop, ht, hstops⟩ :=
    pass_serves hapart hdiscreet .stop (u := ⟨(fun _ => [], w), journal⟩) hrest
  obtain ⟨started, u, hstart, hu, hstarts⟩ := pass_serves hapart hdiscreet .start ht
  refine ⟨_, u, (Act.bind_ok hstop).trans hstart, fun hwell => ?_⟩
  have htwice := fun i hi => serving_twice (hsound i hi) (hstops i hi) (hstarts i hi) (hwell i hi)
  have hfailures : Batch.failures _ ((Batch.order .start (seat.get w).members).map fun i => ⟨i, .start, started i⟩) = _ :=
    failures_of_stuck fun i hi => (htwice i hi).1
  rw [hfailures]
  refine ⟨hu.unmoved.1, fun i hi => (htwice i hi).2.1, fun i hi hstuck => ?_, ?_, fun hne => ?_⟩
  · obtain ⟨hhistory, hmachine⟩ := Prod.mk.inj ((htwice i hi).2.2 hstuck)
    exact ⟨hmachine, hhistory⟩
  · rw [Batch.verdict_eq_ok, stuckFailures_eq_nil]
  · cases hreply : Batch.verdict .start (fleet.stuckFailures seat w) with
    | ok _ => exact absurd hreply hne
    | error e => exact congrArg Except.error (Batch.verdict_eq_error hreply)

/-- A stop and a start on record are a stop and a start. -/
theorem restart_of_recording {s t : Stage σ} {reply : Reply Unit} {history : ι → List HookDeed}
    (h : Act.recording (fun _ => []) (Manager.mk (Part.snd.comp seat) fleet.recorded).restart s = .ok (reply, history) t) :
    (Manager.mk seat fleet.leaf).restart s = .ok reply t := by
  have hmirrors : Manager.Mirrors Prod.snd (Manager.mk (Part.snd.comp seat) fleet.recorded) (Manager.mk seat fleet.leaf) :=
    ⟨Part.shows_beside seat, fleet.recorded_mirrors⟩
  exact hmirrors.restart.of_recording h

/-- A stop and then a start bring back everything that a manager holds, but for the machines that failed and cannot be reset:
whatever states the machines were left in, as long as none is in the midst of a request, and whatever the stop answers, if the hooks
return and do not call back and no call of a hook that the two passes make fails. -/
theorem restart_recovers (hapart : fleet.Apart (Tree.manager seat Tree.leaf)) {s : Stage σ}
    (hleft : ∀ i ∈ (seat.get s.world).members, Machine.Left (fleet.hooks i) ((fleet.machine i).get s.world))
    (hsettled : ∀ i ∈ (seat.get s.world).members, ((fleet.machine i).get s.world).state.Settled)
    (hdiscreet : ∀ i ∈ (seat.get s.world).members, fleet.Discreet (Tree.manager seat Tree.leaf) i) :
    ∃ reply history t,
      Act.recording (fun _ => []) (Manager.mk (Part.snd.comp seat) fleet.recorded).restart s = .ok (reply, history) t ∧
      (Manager.mk seat fleet.leaf).restart s = .ok reply t ∧
      ((∀ i ∈ (seat.get s.world).members, ∀ deed ∈ history i, ¬ deed.Fails) →
        fleet.Recovered seat s.world reply history t.world) := by
  have hsound : ∀ i ∈ (seat.get s.world).members, ((fleet.machine i).get s.world).Sound :=
    fun i hi => (hleft i hi).sound (hsettled i hi)
  obtain ⟨reply, t, hrun, hrecovered⟩ := restart_serves hapart hdiscreet hsound s.journal
  have hrecording : Act.recording (fun _ => []) (Manager.mk (Part.snd.comp seat) fleet.recorded).restart s = _ :=
    Act.recording_ok hrun
  exact ⟨_, _, _, hrecording, restart_of_recording hrecording, hrecovered⟩

/-! ## A rehearsal -/

namespace Harbour

/-- What the rehearsal is about: a registry, machines, the pulses of lights and their threads, and the weather. -/
structure World where
  registry : Registry Nat
  machines : Nat → Machine
  pulses : Nat → Pulse := fun _ => {}
  threads : ThreadHost := {}
  calm : Bool

def registry : Part World (Registry Nat) := ⟨World.registry, fun registry w => { w with registry }⟩

def pulse (n : Nat) : Part World Pulse :=
  ⟨fun w => w.pulses n, fun pulse w => { w with pulses := Function.update w.pulses n pulse }⟩

def threads : Part World ThreadHost := ⟨World.threads, fun threads w => { w with threads }⟩

/-- Every hook goes well when it is calm. -/
def sail : Act World (Except Cause Unit) := do
  return if (← Act.world).calm then .ok () else .error ⟨"storm", []⟩

/-- Machines of even number can recover. -/
def ships : Fleet World Nat where
  machine n := ⟨fun w => w.machines n, fun m w => { w with machines := Function.update w.machines n m }⟩
  hooks n := {
    name := "ship"
    resettable := n % 2 == 0
    start := sail
    stop := sail
    reset := sail }

/-- Machine 3 is a ship. The others are lights, which are heartbeats. -/
def lights : Fleet World Nat where
  machine := ships.machine
  hooks n := if n = 3 then ships.hooks 3 else (Heartbeat.mk "light" 1000).hooks (pulse n) (ThreadHost.threads threads)

/-- The start of machine 1 stops machine 0. -/
def meddlers : Fleet World Nat where
  machine := ships.machine
  hooks n :=
    if n = 1 then
      { ships.hooks 1 with
        start := do
          discard ((ships.leaf 0).request .stop)
          return .ok () }
    else ships.hooks n

/-- A light was never lit, one burns, one found no thread, and the ship met a storm. -/
def machines : Nat → Machine
  | 0 => {}
  | 1 => ⟨.started, none⟩
  | 2 => ⟨.failed, some ⟨"no threads left", []⟩⟩
  | _ => ⟨.failed, some ⟨"storm", []⟩⟩

/-- It is calm now, and there are threads. -/
def stage : Stage World where
  world := {
    registry := ⟨[3, 0, 1, 2], by decide⟩
    machines
    pulses := fun n => { running := n == 1 }
    threads := { deeds := [.spawned "heartbeat-light"] }
    calm := true }
  journal := []

/-- Two ships of which nothing was asked before. -/
def morning : Stage World where
  world := { registry := ⟨[0, 1], by decide⟩, machines := fun _ => {}, calm := true }
  journal := []

/-- A world in which no hook of a ship succeeds. -/
def stormy : World := { morning.world with calm := false }

/-- A world in which the next light is refused its thread. -/
def crowded : World := { morning.world with threads := { spawnOutcomes := [some "no threads left"] } }

theorem apart {fleet : Fleet World Nat} (h : fleet.machine = ships.machine) :
    fleet.Apart (Tree.manager registry Tree.leaf) where
  lawful n := by
    rw [h]
    exact ⟨fun m w => by simp [ships], fun w => by simp [ships], fun m m' w => by simp [ships]⟩
  machines i j hne m w := by
    rw [h]
    simp [ships, Ne.symm hne]
  registrations i m w := by
    rw [h]
    exact ⟨rfl, fun _ _ => trivial⟩

/-! ### A light and a ship -/

theorem ships_invoke (n : Nat) (phase : Phase) (s : Stage World) :
    (ships.hooks n).invoke phase s = .ok (if s.world.calm then .ok () else .error ⟨"storm", []⟩) s := by
  cases phase <;> rfl

theorem ships_return (n : Nat) : (ships.hooks n).Return where
  invoke phase s := ⟨_, _, ships_invoke n phase s⟩
  failed _ _ := ⟨_, _, rfl⟩

theorem lights_discreet (n : Nat) : lights.Discreet (Tree.manager registry Tree.leaf) n := by
  by_cases hn : n = 3
  · have hhooks : lights.hooks n = ships.hooks 3 := if_pos hn
    refine ⟨hhooks ▸ ships_return 3, fun phase s => ?_, fun e s => ?_⟩
    · rw [hhooks, Act.leaves_of_ok (ships_invoke 3 phase s)]
      exact spared_refl _
    · rw [hhooks]
      exact spared_refl _
  · have hhooks : lights.hooks n = _ := if_neg hn
    exact discreet_heartbeat hhooks ⟨fun _ _ => rfl, fun _ => rfl, fun _ _ _ => rfl⟩ (by decide)
      (fun _ _ => ⟨⟨rfl, fun _ _ => trivial⟩, fun _ _ => rfl⟩) fun _ _ => ⟨⟨rfl, fun _ _ => trivial⟩, fun _ _ => rfl⟩

/-- Of the four machines one is fresh, and each of the others is left by a start. -/
theorem lights_left : ∀ n ∈ [3, 0, 1, 2], Machine.Left (lights.hooks n) (machines n) := by
  have hstorm : ((Machine.request (lights.hooks 3) .start).leaves ⟨({}, stormy), []⟩).world.1 = machines 3 := by
    decide +kernel
  have hburning : ((Machine.request (lights.hooks 1) .start).leaves ⟨({}, morning.world), []⟩).world.1 = machines 1 := by
    decide +kernel
  have hrefused : ((Machine.request (lights.hooks 2) .start).leaves ⟨({}, crowded), []⟩).world.1 = machines 2 := by
    decide +kernel
  simp only [List.forall_mem_cons]
  refine ⟨?_, .fresh, ?_, ?_, by simp⟩
  · exact hstorm ▸ .request .start ⟨stormy, []⟩ .fresh
  · exact hburning ▸ .request .start morning .fresh
  · exact hrefused ▸ .request .start ⟨crowded, []⟩ .fresh

/-- What is seen of a stop and a start on record: the text of the answer, the calls of the hooks of each machine, the machines, and
what was done to threads. -/
structure Sight where
  reply : Except String Unit
  calls : List (List (Phase × Except Cause Unit))
  machines : List Machine
  deeds : List ThreadDeed
deriving DecidableEq

/-- What is seen of some machines behind a run that returned. -/
def sight (members : List Nat) :
    EStateM.Result Interruption (Stage World) (Reply Unit × (Nat → List HookDeed)) → Option Sight
  | .ok (reply, history) t => some {
      reply := reply.mapError SupervisorError.message
      calls := members.map fun n => (history n).filterMap HookDeed.call
      machines := members.map t.world.machines
      deeds := t.world.threads.deeds }
  | .error _ _ => none

/-- Where all calls that are seen went well, no deed on record is a failed call. -/
theorem not_fails_of_calls {members : List Nat} {history : Nat → List HookDeed} {calls : List (List (Phase × Except Cause Unit))}
    (hcalls : (members.map fun n => (history n).filterMap HookDeed.call) = calls) (hends : ∀ xs ∈ calls, ∀ x ∈ xs, x.2 = .ok ()) :
    ∀ n ∈ members, ∀ deed ∈ history n, ¬ deed.Fails := by
  subst hcalls
  exact fun n hn => HookDeed.not_fails (hends _ (List.mem_map_of_mem hn))

/-- The ship failed in a storm and cannot be reset. The light without a thread is reset and stopped first, and then started, the one
that burnt is stopped and started, and the one that was never lit is started. -/
theorem restart_recovers_rehearsal :
    ∃ reply history t,
      Act.recording (fun _ => []) (Manager.mk (Part.snd.comp registry) lights.recorded).restart stage = .ok (reply, history) t ∧
      (Manager.mk registry lights.leaf).restart stage = .ok reply t ∧
      (∀ n ∈ (registry.get stage.world).members, ∀ deed ∈ history n, ¬ deed.Fails) ∧
      lights.Recovered registry stage.world reply history t.world ∧
      (registry.get stage.world).members.filter (fun n => Machine.Stuck (lights.hooks n) (stage.world.machines n)) = [3] ∧
      reply = .error (.batch .start [("ship", .undefinedTransition "ship" .failed .start)]) ∧
      ([3, 0, 1, 2].map fun n => (history n).filterMap HookDeed.call) = [[], [(.start, .ok ())],
        [(.stop, .ok ()), (.start, .ok ())], [(.reset, .ok ()), (.stop, .ok ()), (.start, .ok ())]] ∧
      [3, 0, 1, 2].map t.world.machines =
        [⟨.failed, some ⟨"storm", []⟩⟩, ⟨.started, none⟩, ⟨.started, none⟩, ⟨.started, none⟩] ∧
      t.world.threads.deeds = [.spawned "heartbeat-light", .signalled "heartbeat-light", .joined "heartbeat-light",
        .spawned "heartbeat-light", .spawned "heartbeat-light", .spawned "heartbeat-light"] := by
  have hapart : lights.Apart (Tree.manager registry Tree.leaf) := apart rfl
  obtain ⟨reply, history, t, hrecording, hrun, hrecovered⟩ := restart_recovers (s := stage) hapart lights_left
    (by decide) fun n _ => lights_discreet n
  have hsight : sight [3, 0, 1, 2]
      (Act.recording (fun _ => []) (Manager.mk (Part.snd.comp registry) lights.recorded).restart stage) = some {
        reply := .error "1 components failed to start"
        calls := [[], [(.start, .ok ())], [(.stop, .ok ()), (.start, .ok ())],
          [(.reset, .ok ()), (.stop, .ok ()), (.start, .ok ())]]
        machines := [⟨.failed, some ⟨"storm", []⟩⟩, ⟨.started, none⟩, ⟨.started, none⟩, ⟨.started, none⟩]
        deeds := [.spawned "heartbeat-light", .signalled "heartbeat-light", .joined "heartbeat-light",
          .spawned "heartbeat-light", .spawned "heartbeat-light", .spawned "heartbeat-light"] } := by
    decide +kernel
  rw [hrecording] at hsight
  obtain ⟨-, hcalls, hmachines, hdeeds⟩ := Sight.mk.inj (Option.some.inj hsight)
  have hwell : ∀ n ∈ (registry.get stage.world).members, ∀ deed ∈ history n, ¬ deed.Fails :=
    not_fails_of_calls hcalls (by decide)
  have hstuck : reply ≠ .ok () := fun hreply => (hrecovered hwell).ok_iff.1 hreply 3 (by decide) (by decide)
  exact ⟨reply, history, t, hrecording, hrun, hwell, hrecovered hwell, by decide, (hrecovered hwell).failures hstuck, hcalls,
    hmachines, hdeeds⟩

/-! ### Hooks that call back -/

/-- A world in which every hook succeeds. -/
def Fair (w : World) : Prop :=
  w.calm = true ∧ ∀ n, (w.machines n).Sound

theorem fair_set (n : Nat) {m : Machine} {w : World} (hm : m.Sound) (hw : Fair w) : Fair ((ships.machine n).set m w) := by
  refine ⟨hw.1, fun k => ?_⟩
  change (Function.update w.machines n m k).Sound
  by_cases hk : k = n
  · rwa [hk, Function.update_self]
  · rw [Function.update_of_ne hk]
    exact hw.2 k

theorem ships_invoke_fair (n : Nat) (phase : Phase) {s : Stage World} (hs : Fair s.world) :
    (ships.hooks n).invoke phase s = .ok (.ok ()) s := by
  rw [ships_invoke, if_pos hs.1]

/-- To stop machine 0 from within a hook goes as well as to stop it from outside. -/
theorem meddlers_invoke (n : Nat) (phase : Phase) {s : Stage World} (hs : Fair s.world) :
    ∃ t, (meddlers.hooks n).invoke phase s = .ok (.ok ()) t ∧ Fair t.world := by
  by_cases hn : n = 1
  · subst hn
    cases phase with
    | start =>
      obtain ⟨deeds, reply, m', t, hcourse⟩ := Machine.exists_course (ships.hooks 0) (ships_return 0) .stop (s.world.machines 0) s
      have ht : Fair t.world := by
        refine hcourse.keeps (fun phase u hu => ?_) (fun _ _ hu => hu) hs
        rw [Act.leaves_of_ok (ships_invoke_fair 0 phase hu)]
        exact hu
      have hcallback : discard ((ships.leaf 0).request .stop) s = _ :=
        Act.discard_ok (hcourse.component_eq rfl (hs.2 0))
      exact ⟨_, Act.bind_ok hcallback, fair_set 0 (hcourse.sound (hs.2 0)) ht⟩
    | stop => exact ⟨s, ships_invoke_fair 1 .stop hs, hs⟩
    | reset => exact ⟨s, ships_invoke_fair 1 .reset hs, hs⟩
  · have hhooks : meddlers.hooks n = ships.hooks n := if_neg hn
    rw [hhooks]
    exact ⟨s, ships_invoke_fair n phase hs, hs⟩

theorem of_sight {members : List Nat} {x : EStateM.Result Interruption (Stage World) (Reply Unit × (Nat → List HookDeed))}
    {seen : Sight} (h : sight members x = some seen) (hreply : seen.reply = .ok ()) :
    ∃ history t, x = .ok (.ok (), history) t ∧ (members.map fun n => (history n).filterMap HookDeed.call) = seen.calls ∧
      members.map t.world.machines = seen.machines := by
  rcases x with ⟨⟨_ | _, history⟩, t⟩ | _
  · cases h
    cases hreply
  · cases h
    exact ⟨history, t, rfl, rfl, rfl⟩
  · cases h

/-- Hooks that succeed may still call back: the start of machine 1 stops machine 0, which the same pass had started. Every call goes
well, and so does the start of both, and machine 0 is stopped. -/
theorem restart_undone_by_callback :
    meddlers.Apart (Tree.manager registry Tree.leaf) ∧
    (∀ n ∈ (registry.get morning.world).members, Machine.Left (meddlers.hooks n) ((meddlers.machine n).get morning.world) ∧
      ((meddlers.machine n).get morning.world).state.Settled) ∧
    Fair morning.world ∧ (∀ n phase (s : Stage World), Fair s.world →
      ∃ t, (meddlers.hooks n).invoke phase s = .ok (.ok ()) t ∧ Fair t.world) ∧
    ∃ history t,
      Act.recording (fun _ => []) (Manager.mk (Part.snd.comp registry) meddlers.recorded).restart morning =
        .ok (.ok (), history) t ∧
      (Manager.mk registry meddlers.leaf).restart morning = .ok (.ok ()) t ∧
      (∀ n ∈ (registry.get morning.world).members, ∀ deed ∈ history n, ¬ deed.Fails) ∧
      (meddlers.machine 0).get t.world = ⟨.stopped, none⟩ ∧ (meddlers.machine 1).get t.world = ⟨.started, none⟩ ∧
      ¬ meddlers.Recovered registry morning.world (.ok ()) history t.world := by
  have hleft : ∀ n ∈ (registry.get morning.world).members,
      Machine.Left (meddlers.hooks n) ((meddlers.machine n).get morning.world) ∧
        ((meddlers.machine n).get morning.world).state.Settled := fun n _ => ⟨.fresh, trivial⟩
  have hsight : sight [0, 1]
      (Act.recording (fun _ => []) (Manager.mk (Part.snd.comp registry) meddlers.recorded).restart morning) = some {
        reply := .ok ()
        calls := [[(.start, .ok ())], [(.start, .ok ())]]
        machines := [⟨.stopped, none⟩, ⟨.started, none⟩]
        deeds := [] } := by
    decide +kernel
  obtain ⟨history, t, hrecording, hcalls, hmachines⟩ := of_sight hsight rfl
  obtain ⟨hstopped, hstarted⟩ : t.world.machines 0 = ⟨.stopped, none⟩ ∧ t.world.machines 1 = ⟨.started, none⟩ := by
    simpa using hmachines
  refine ⟨apart rfl, hleft, ⟨rfl, fun _ => Machine.sound_default⟩, fun n phase _ => meddlers_invoke n phase, history, t, hrecording,
    restart_of_recording hrecording, not_fails_of_calls hcalls (by decide), hstopped, hstarted, fun hrecovered => ?_⟩
  have hzero : (meddlers.machine 0).get t.world = ⟨.started, none⟩ := hrecovered.started 0 (by decide) (by decide)
  rw [show (meddlers.machine 0).get t.world = _ from hstopped] at hzero
  cases hzero

end Harbour

end Fleet

end Supervision

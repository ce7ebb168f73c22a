import Supervision.Proofs.Coordinator
import Supervision.Proofs.Visits

/-!
# Batches whose members change the registrations

A component may change the registrations of the very manager that asks it, and may have that manager carry out another batch
before it answers. A `Chore` is what such a component does with a request, step by step, and a `Crew` is a manager of such
components; `Crew.manager n` is that manager where batches nest no deeper than `n`.

Two records are kept of a batch: the visits, and the operations on the registrations in the order in which they are issued, be
it by a member of the batch or by one of a batch within it. `Crew.batch_runs_over_snapshot` says that the first depends only on
what is registered when the batch begins, and that the second is all that becomes of the registrations.
-/

namespace Supervision

variable {σ κ α : Type}

/-- What a component does with a request. What comes next may depend on the answer to each step. -/
inductive Chore (seat : Part σ (Registry κ)) : Type 1 where
  | answer (reply : Reply Unit)
  /-- Anything that may look at the registrations, but leaves them alone. -/
  | aside {β : Type} (x : Act σ β) (apart : x.Leads fun w w' => seat.get w' = seat.get w) (next : β → Chore seat)
  | add (k : κ) (next : Bool → Chore seat)
  | remove (k : κ) (next : Bool → Chore seat)
  | clear (next : Chore seat)
  /-- A batch within the batch. -/
  | batch (operation : Request) (next : Reply Unit → Chore seat)

/-- Components that may call back the manager in which they are registered. -/
structure Crew (σ κ : Type) where
  seat : Part σ (Registry κ)
  lawful : seat.Lawful
  name : κ → String
  chore : κ → Request → Chore seat

/-- A registration operation that goes on record. -/
def Enrolment.noted (e : Enrolment κ) (x : Act (List (Enrolment κ) × σ) α) : Act (List (Enrolment κ) × σ) α := do
  let a ← x
  Part.fst.modify (· ++ [e])
  return a

theorem Enrolment.noted_mirrors (e : Enrolment κ) {y : Act (List (Enrolment κ) × σ) α} {x : Act σ α}
    (h : Act.Mirrors Prod.snd y x) : Act.Mirrors Prod.snd (e.noted y) x := by
  have hnoted := h.bind fun a => (Act.mirrors_note (· ++ [e])).bind fun _ => Act.Mirrors.pure a
  simpa [noted] using hnoted

variable [DecidableEq κ]

/-- Does a chore for a manager. -/
def Chore.run {seat : Part σ (Registry κ)} (manager : Manager σ κ) : Chore seat → Act σ (Reply Unit)
  | answer reply => return reply
  | aside x _ next => do (next (← x)).run manager
  | add k next => do (next (← manager.add k)).run manager
  | remove k next => do (next (← manager.remove k)).run manager
  | clear next => do
    manager.clear
    next.run manager
  | batch operation next => do (next (← manager.request operation)).run manager

/-- The manager of a crew, as far as it is called from within its own batches no deeper than this. -/
def Crew.manager (crew : Crew σ κ) : Nat → Manager σ κ
  | 0 => ⟨crew.seat, fun k => ⟨crew.name k, fun _ => throw .overflow⟩⟩
  | depth + 1 => ⟨crew.seat, fun k => ⟨crew.name k, fun r => (crew.chore k r).run (crew.manager depth)⟩⟩

/-! ## The records -/

/-- What registration operations, one after the other, make of a registry. -/
def Registry.enrolled (registry : Registry κ) (enrolments : List (Enrolment κ)) : Registry κ :=
  enrolments.foldl (fun registry e => e.registry registry) registry

/-- Does a chore for a manager, with its registration operations on record. -/
def Chore.runNoted {seat : Part σ (Registry κ)} (manager : Manager (List (Enrolment κ) × σ) κ) :
    Chore seat → Act (List (Enrolment κ) × σ) (Reply Unit)
  | answer reply => return reply
  | aside x _ next => do (next (← Part.snd.focus x)).runNoted manager
  | add k next => do (next (← (Enrolment.add k).noted (manager.add k))).runNoted manager
  | remove k next => do (next (← (Enrolment.remove k).noted (manager.remove k))).runNoted manager
  | clear next => do
    Enrolment.clear.noted manager.clear
    next.runNoted manager
  | batch operation next => do (next (← manager.request operation)).runNoted manager

/-- The manager of a crew, with the registration operations of its components on record. -/
def Crew.noted (crew : Crew σ κ) : Nat → Manager (List (Enrolment κ) × σ) κ
  | 0 => ⟨Part.snd.comp crew.seat, fun k => ⟨crew.name k, fun _ => throw .overflow⟩⟩
  | depth + 1 => ⟨Part.snd.comp crew.seat, fun k => ⟨crew.name k, fun r => (crew.chore k r).runNoted (crew.noted depth)⟩⟩

/-! ## The records change nothing -/

/-- A chore on record is the chore. -/
theorem Chore.runNoted_mirrors {seat : Part σ (Registry κ)} {outer : Manager (List (Enrolment κ) × σ) κ} {inner : Manager σ κ}
    (h : Manager.Mirrors Prod.snd outer inner) (chore : Chore seat) :
    Act.Mirrors Prod.snd (chore.runNoted outer) (chore.run inner) := by
  induction chore with
  | answer reply => exact .pure _
  | aside x _ _ ih => exact (Act.mirrors_focus x).bind ih
  | add k _ ih => exact ((Enrolment.add k).noted_mirrors (h.add k)).bind ih
  | remove k _ ih => exact ((Enrolment.remove k).noted_mirrors (h.remove k)).bind ih
  | clear _ ih => exact (Enrolment.clear.noted_mirrors h.clear).bind fun _ => ih
  | batch operation _ ih => exact (h.request operation).bind ih

namespace Crew

variable (crew : Crew σ κ)

theorem noted_mirrors (depth : Nat) : Manager.Mirrors Prod.snd (crew.noted depth) (crew.manager depth) := by
  induction depth with
  | zero => exact ⟨Part.shows_beside _, fun k => ⟨rfl, fun r s => rfl⟩⟩
  | succ depth ih => exact ⟨Part.shows_beside _, fun k => ⟨rfl, fun r => (crew.chore k r).runNoted_mirrors ih⟩⟩

/-! ## What becomes of the registrations -/

/-- What is registered is what the operations on record have made of a registry. -/
def Accounted (registry : Registry κ) (p : List (Enrolment κ) × σ) : Prop :=
  crew.seat.get p.2 = registry.enrolled p.1

variable {crew} {registry : Registry κ}

/-- An operation joins the record and changes the registry. -/
theorem Accounted.step {e : Enrolment κ} {x : Act (List (Enrolment κ) × σ) α}
    (hx : ∀ s, ∃ a journal, x s =
      .ok a ⟨(s.world.1, crew.seat.set (e.registry (crew.seat.get s.world.2)) s.world.2), journal⟩) :
    (e.noted x).Keeps (crew.Accounted registry) := by
  intro s hs
  obtain ⟨a, journal, ha⟩ := hx s
  have hnoted : e.noted x s = .ok a
      ⟨(s.world.1 ++ [e], crew.seat.set (e.registry (crew.seat.get s.world.2)) s.world.2), journal⟩ := by
    rw [Enrolment.noted, Act.bind_ok ha]
    rfl
  rw [Act.leaves_of_ok hnoted, Accounted, crew.lawful.get_set, hs, Registry.enrolled, Registry.enrolled, List.foldl_append]
  rfl

/-- A chore keeps the account of the registrations, if the manager it calls has its components keep it. -/
theorem runNoted_accounted {manager : Manager (List (Enrolment κ) × σ) κ} (hseat : manager.seat = Part.snd.comp crew.seat)
    (hcomponents : ∀ k r, ((manager.component k).request r).Keeps (crew.Accounted registry)) (chore : Chore crew.seat) :
    (chore.runNoted manager).Keeps (crew.Accounted registry) := by
  have hlawful : manager.seat.Lawful := hseat ▸ Part.lawful_snd.comp crew.lawful
  induction chore with
  | answer reply => exact .pure _
  | aside x apart next ih =>
    refine Act.Keeps.bind (fun s hs => ?_) ih
    rw [Part.leaves_focus]
    exact (apart ⟨s.world.2, s.journal⟩).trans hs
  | add k next ih =>
    refine (Accounted.step fun s => ?_).bind ih
    obtain ⟨journal, h⟩ := manager.add_apply hlawful k s
    exact ⟨_, journal, by rw [h, hseat]; rfl⟩
  | remove k next ih =>
    refine (Accounted.step fun s => ?_).bind ih
    obtain ⟨journal, h⟩ := manager.remove_apply hlawful k s
    exact ⟨_, journal, by rw [h, hseat]; rfl⟩
  | clear next ih =>
    refine (Accounted.step fun s => ?_).bind fun _ => ih
    exact ⟨(), _, by rw [manager.clear_apply s, hseat]; rfl⟩
  | batch operation next ih => exact (Manager.request_keeps fun k => hcomponents k operation).bind ih

/-- Whatever a component of a crew is asked for, the account of the registrations is kept, however deep batches nest. -/
theorem noted_accounted (registry : Registry κ) (depth : Nat) (k : κ) (r : Request) :
    (((crew.noted depth).component k).request r).Keeps (crew.Accounted registry) := by
  induction depth generalizing k r with
  | zero => exact fun _ hs => hs
  | succ depth ih =>
    have hseat : (crew.noted depth).seat = Part.snd.comp crew.seat := by cases depth <;> rfl
    exact runNoted_accounted hseat ih (crew.chore k r)

/-! ## Batches -/

variable (crew)

/-- A batch runs over what is registered when it begins: each of those components is visited once, in registration order for a
start and in the reverse for a stop, whatever the visits make of the registrations. The batch goes well if all visits do, and
answers otherwise with the failed ones. What is registered behind it is what the operations of the components, in the order in
which they were issued, make of what was registered before it. -/
theorem batch_runs_over_snapshot (depth : Nat) (operation : Request) (s : Stage σ)
    (hreturns : ∀ k ∈ (crew.seat.get s.world).members, (((crew.manager depth).component k).request operation).Returns) :
    ∃ reply visits enrolments t,
      Act.recording [] (Act.recording [] ((crew.noted depth).recorded.request operation)) s =
        .ok ((reply, visits), enrolments) t ∧
      (crew.manager depth).request operation s = .ok reply t ∧
      visits.map Visit.whom = Batch.order operation (crew.seat.get s.world).members ∧
      (∀ v ∈ visits, v.request = operation) ∧
      (reply = .ok () ↔ ∀ v ∈ visits, v.reply = .ok ()) ∧
      (∀ e, reply = .error e →
        e = .batch operation (Batch.failures crew.name visits) ∧ e.failedCount = visits.countP Visit.failed) ∧
      crew.seat.get t.world = (crew.seat.get s.world).enrolled enrolments := by
  have hmirrors := crew.noted_mirrors depth
  have hseat : (crew.noted depth).seat = Part.snd.comp crew.seat := by cases depth <;> rfl
  have hname : (fun k => ((crew.noted depth).component k).name) = crew.name := by cases depth <;> rfl
  let registry := crew.seat.get s.world
  -- a visit goes on record, and keeps the account of the registrations
  have hvisit : ∀ k ∈ registry.members, ∀ p : Stage (List (Visit κ) × List (Enrolment κ) × σ),
      crew.Accounted registry p.world.2 → ∃ reply q,
        ((crew.noted depth).recorded.component k).request operation p = .ok reply q ∧
        Visit.Recorded (crew.noted depth).component ⟨k, operation, reply⟩ p.world q.world ∧
        crew.Accounted registry q.world.2 := by
    intro k hk p hp
    obtain ⟨reply, q, hq⟩ := ((hmirrors.component k).request operation).returns (hreturns k hk) ⟨p.world.2, p.journal⟩
    have haccounted := (noted_accounted registry depth k operation).of_ok hq hp
    exact ⟨reply, _, Lifecycle.recorded_request hq, ⟨rfl, _, _, hq⟩, haccounted⟩
  have hnone : crew.Accounted registry (([] : List (Enrolment κ)), s.world) := rfl
  obtain ⟨visits, q, hrun, hpasses, hwhom, hrequest, haccounted⟩ := Batch.run_visits
    (I := fun p => crew.Accounted registry p.2) registry.members hvisit ⟨([], [], s.world), s.journal⟩ hnone
  have hname' : (fun k => ((crew.noted depth).recorded.component k).name) = crew.name := hname
  rw [hname'] at hrun
  obtain ⟨hrecord, -⟩ := hpasses.recorded
  have hq : q.world = (visits, q.world.2.1, q.world.2.2) := by rw [← show q.world.1 = visits from hrecord]
  have hrequested : (crew.noted depth).recorded.request operation ⟨([], [], s.world), s.journal⟩ =
      .ok (Batch.verdict operation (Batch.failures crew.name visits)) ⟨(visits, q.world.2.1, q.world.2.2), q.journal⟩ := by
    rw [Manager.request_apply, ← hq]
    have hmembers : ((crew.noted depth).recorded.seat.get (([] : List (Visit κ)), ([] : List (Enrolment κ)), s.world)) =
        registry := by
      show (crew.noted depth).seat.get _ = _
      rw [hseat]
      rfl
    rw [hmembers]
    exact hrun
  have hvisits : Act.recording [] ((crew.noted depth).recorded.request operation) ⟨([], s.world), s.journal⟩ = _ :=
    Act.recording_ok hrequested
  have hnoted := (((crew.noted depth).recorded_mirrors).request operation).of_recording hvisits
  have hplain := (hmirrors.request operation).of_recording (Act.recording_ok hnoted)
  refine ⟨_, visits, q.world.2.1, _, Act.recording_ok hvisits, hplain, hwhom, hrequest, ?_, fun e he => ?_, haccounted⟩
  · rw [Batch.verdict_eq_ok, Batch.failures_eq_nil]
  · have hbatch := Batch.verdict_eq_error he
    refine ⟨hbatch, ?_⟩
    rw [hbatch, SupervisorError.failedCount, Batch.failures, List.length_filterMap_eq_countP]
    refine List.countP_congr fun v _ => ?_
    rw [Option.isSome_map, Visit.failed]

end Crew

/-! ## A rehearsal -/

namespace Crew.Rehearsal

/-- When it is started, component 0 brings another one in and takes component 2 out, component 1 has everything stopped and
fails, component 2 drops all registrations and fails, and component 3 brings component 0 back. A stop of it brings in another
one. -/
def chore : Nat → Request → Chore (Part.whole : Part (Registry Nat) (Registry Nat))
  | 0, .start => .add 4 fun _ => .remove 2 fun _ => .answer (.ok ())
  | 1, .start => .batch .stop fun _ => .answer (.error (.io "stalled"))
  | 2, .start => .clear (.answer (.error (.io "stuck")))
  | 3, .start => .add 0 fun _ => .answer (.ok ())
  | 3, .stop => .add 5 fun _ => .answer (.ok ())
  | _, _ => .answer (.ok ())

def crew : Crew (Registry Nat) Nat where
  seat := Part.whole
  lawful := Part.lawful_whole
  name n := if n = 1 then "pump" else "valve"
  chore

def stage : Stage (Registry Nat) :=
  ⟨⟨[0, 1, 2, 3], by decide⟩, []⟩

theorem lawful_manager (depth : Nat) : (crew.manager depth).seat.Lawful := by
  cases depth <;> exact Part.lawful_whole

/-- Only starts call for batches. -/
theorem chore_returns (depth : Nat) {r : Request} (hstop : r = .start → ((crew.manager depth).request .stop).Returns) (k : Nat) :
    ((chore k r).run (crew.manager depth)).Returns := by
  have hadd := (crew.manager depth).add_returns (lawful_manager depth)
  unfold chore
  split
  · exact (hadd 4).bind fun _ => ((crew.manager depth).remove_returns (lawful_manager depth) 2).bind fun _ => .pure _
  · exact (hstop rfl).bind fun _ => .pure _
  · exact fun s => ⟨_, _, rfl⟩
  · exact (hadd 0).bind fun _ => .pure _
  · exact (hadd 5).bind fun _ => .pure _
  · exact .pure _

/-- Starts of the crew nest batches twice. -/
theorem start_returns (k : Nat) : (((crew.manager 2).component k).request .start).Returns := by
  have hstop : ∀ k, (((crew.manager 1).component k).request .stop).Returns :=
    fun k => chore_returns 0 (by simp) k
  exact chore_returns 1 (fun _ => Manager.request_returns hstop) k

/-- The errors of a batch with the operations on record and what is registered behind it. -/
def outcome : EStateM.Result Interruption (Stage (Registry Nat)) ((Reply Unit × List (Visit Nat)) × List (Enrolment Nat)) →
    List (String × SupervisorError) × List (Enrolment Nat) × List Nat
  | .ok ((.error (.batch _ failures), _), enrolments) t => (failures, enrolments, t.world.members)
  | _ => ([], [], [])

end Crew.Rehearsal

/-- `batch_runs_over_snapshot` for a start of the crew of the rehearsal: component 2 is started although it was taken out, the
components brought in are not, and component 5 is brought in by the batch within the batch. -/
theorem Crew.batch_runs_over_snapshot_rehearsal :
    ∃ e visits t, (Crew.Rehearsal.crew.manager 2).request .start Crew.Rehearsal.stage = .ok (.error e) t ∧
      visits.map Visit.whom = [0, 1, 2, 3] ∧
      e = .batch .start (Batch.failures Crew.Rehearsal.crew.name visits) ∧
      Batch.failures Crew.Rehearsal.crew.name visits = [("pump", .io "stalled"), ("valve", .io "stuck")] ∧
      t.world = Crew.Rehearsal.stage.world.enrolled [.add 4, .remove 2, .add 5, .clear, .add 0] ∧
      t.world.members = [0] := by
  obtain ⟨reply, visits, enrolments, t, hrecorded, hplain, hwhom, -, -, herror, hregistry⟩ :=
    Crew.batch_runs_over_snapshot Crew.Rehearsal.crew 2 .start Crew.Rehearsal.stage fun k _ => Crew.Rehearsal.start_returns k
  have houtcome : Crew.Rehearsal.outcome (Act.recording [] (Act.recording []
      ((Crew.Rehearsal.crew.noted 2).recorded.request .start)) Crew.Rehearsal.stage) =
        ([("pump", .io "stalled"), ("valve", .io "stuck")], [.add 4, .remove 2, .add 5, .clear, .add 0], [0]) := by
    rfl
  rw [hrecorded] at houtcome
  cases reply with
  | ok _ => cases congrArg (fun o => o.2.1.length) houtcome
  | error e =>
    obtain ⟨rfl, -⟩ := herror e rfl
    obtain ⟨hfailures, henrolments⟩ := Prod.mk.inj houtcome
    obtain ⟨rfl, hmembers⟩ := Prod.mk.inj henrolments
    exact ⟨_, visits, t, hplain, hwhom, rfl, hfailures, hregistry, hmembers⟩

end Supervision

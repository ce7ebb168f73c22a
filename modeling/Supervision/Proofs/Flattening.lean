import Supervision.Proofs.Tree
import Mathlib.Data.List.Nodup

/-!
# Nested managers and the flat list of their leaves

A request to nested managers comes to one visit for each place at which a leaf is registered, and the answer tells which of them
failed. Places are the ways through the identities of the managers (`Tree.occurrences`), so that a leaf which is registered in
two of them is seen twice. `Tree.WrittenOut` replaces the entries of nested managers in an error by the failures of these
managers, until only those of leaves are left; what is written out so are the failed visits (`Tree.Concludes.writtenOut`).
-/

namespace Supervision

variable {σ κ α β : Type}

namespace Visit

/-- The failed ones of visits to leaves: whom each went to, under which name, and how it failed. -/
def failures (leaf : β → String) (visits : List (Visit β)) : List (β × String × SupervisorError) :=
  visits.filterMap fun v => v.error?.map fun e => (v.whom, leaf v.whom, e)

/-- Visits that went well have no failures. -/
theorem failures_eq_nil {leaf : β → String} {visits : List (Visit β)} (h : ∀ v ∈ visits, v.reply = .ok ()) :
    failures leaf visits = [] := by
  simpa [failures, error?_eq_none] using h

theorem failures_flatMap (leaf : β → String) {γ : Type} (f : γ → List (Visit β)) (cs : List γ) :
    failures leaf (cs.flatMap f) = cs.flatMap fun c => failures leaf (f c) := by
  simp [failures, List.filterMap_flatMap]

end Visit

namespace Tree

/-- The places at which leaves are registered, from left to right, each with the leaf that is there. -/
def occurrences (tree : Tree σ κ α) (w : σ) : List (List κ × α) :=
  (tree.located []).leaves w

/-- A failure entry of a component written out: that of a leaf stays, and that of a manager is replaced by the failures of its own,
each of them written out. An entry of a manager belongs to one of its components. -/
inductive WrittenOut : Tree σ κ β → String × SupervisorError → List (β × String × SupervisorError) → Prop where
  | leaf (b : β) (entry : String × SupervisorError) : WrittenOut (.leaf b) entry [(b, entry)]
  | manager {seat : Part σ (Registry κ)} {children : κ → Tree σ κ β} (name : String) (operation : Request)
      (entries : List (κ × (String × SupervisorError) × List (β × String × SupervisorError))) :
      (∀ x ∈ entries, WrittenOut (children x.1) x.2.1 x.2.2) →
      WrittenOut (.manager seat children) (name, .batch operation (entries.map (·.2.1))) (entries.map (·.2.2)).flatten

/-- A component whose visits to leaves are recorded, each with the place of the leaf. -/
def recorded (leaf : α → Lifecycle σ) (tree : Tree σ κ α) : Lifecycle (List (Visit (List κ × α)) × σ) :=
  (tree.located []).beside.component fun x => (leaf x.2).recorded x

/-- A tree does with the world what it does without a record. -/
theorem recorded_mirrors (leaf : α → Lifecycle σ) (tree : Tree σ κ α) :
    (tree.recorded leaf).Mirrors Prod.snd (tree.component leaf) := by
  rw [← component_located leaf tree []]
  have hleaf : ∀ x : List κ × α, ((leaf x.2).recorded x).Mirrors Prod.snd (leaf x.2) :=
    fun x => Lifecycle.recorded_mirrors x (leaf x.2)
  exact beside_mirrors hleaf _

variable {leaf : β → String} {operation : Request} {w : σ} {tree : Tree σ κ β} {visits : List (Visit β)} {reply : Reply Unit}

/-- Managers conclude alike with a record beside the world. -/
theorem Concludes.of_beside {ρ : Type} {p : ρ × σ} (h : Concludes leaf operation p tree.beside visits reply) :
    Concludes leaf operation p.2 tree visits reply := by
  induction tree generalizing visits reply with
  | leaf b =>
    cases h with
    | leaf v => exact .leaf v
  | manager seat children ih =>
    cases h with
    | manager beneath hwhom hconcludes =>
      have hnames : (fun k => ((children k).beside : Tree (ρ × σ) κ β).name leaf) = fun k => (children k).name leaf :=
        funext fun k => by cases children k <;> rfl
      rw [hnames]
      exact .manager beneath hwhom fun b hb => ih b.1.whom (hconcludes b hb)

/-- A tree answers well exactly if every visit to a leaf went well. -/
theorem Concludes.ok_iff (h : Concludes leaf operation w tree visits reply) :
    reply = .ok () ↔ ∀ v ∈ visits, v.reply = .ok () := by
  induction h with
  | leaf v => simp
  | manager beneath _ _ ih =>
    rw [Batch.verdict_eq_ok, Batch.failures_eq_nil, List.forall_mem_map, List.forall_mem_flatMap]
    exact forall₂_congr ih

/-- A component failed exactly if a visit beneath it did. -/
theorem Concludes.failed_iff {turn : Visit κ} (h : Concludes leaf operation w tree visits turn.reply) :
    turn.failed = true ↔ ∃ v ∈ visits, v.failed = true := by
  have hok := h.ok_iff
  rw [← Visit.failed_eq_false] at hok
  simp only [← Visit.failed_eq_false, ← Bool.not_eq_true] at hok
  rw [← not_iff_not, hok]
  simp

/-- Selecting some of a list and going through what they hold is going through all, if the others hold nothing. -/
theorem flatMap_filterMap {γ δ ζ : Type} {f : γ → Option δ} {g : δ → List ζ} {h : γ → List ζ} {cs : List γ}
    (hsome : ∀ c ∈ cs, ∀ d, f c = some d → g d = h c) (hnone : ∀ c ∈ cs, f c = none → h c = []) :
    (cs.filterMap f).flatMap g = cs.flatMap h := by
  induction cs with
  | nil => rfl
  | cons c cs ih =>
    have hrest := ih (fun c hc => hsome c (List.mem_cons_of_mem _ hc)) (fun c hc => hnone c (List.mem_cons_of_mem _ hc))
    cases hc : f c with
    | none => rw [List.filterMap_cons_none hc, hrest, List.flatMap_cons, hnone c List.mem_cons_self hc, List.nil_append]
    | some d => rw [List.filterMap_cons_some hc, List.flatMap_cons, hrest, List.flatMap_cons, hsome c List.mem_cons_self d hc]

/-- The error of a tree, written out, are its failed visits to leaves. -/
theorem Concludes.writtenOut (h : Concludes leaf operation w tree visits reply) {e : SupervisorError}
    (he : reply = .error e) : WrittenOut tree (tree.name leaf, e) (Visit.failures leaf visits) := by
  induction h generalizing e with
  | leaf v =>
    have hfailures : Visit.failures leaf [v] = [(v.whom, leaf v.whom, e)] := by
      simp [Visit.failures, Visit.error?_eq_some.2 he]
    rw [hfailures]
    exact .leaf v.whom _
  | @manager seat children beneath hwhom hconcludes ih =>
    let entry (b : Visit κ × List (Visit β)) := b.1.error?.map fun e =>
      (b.1.whom, ((children b.1.whom).name leaf, e), Visit.failures leaf b.2)
    have hentries : (beneath.filterMap entry).map (·.2.1) =
        Batch.failures (fun k => (children k).name leaf) (beneath.map Prod.fst) := by
      rw [Batch.failures, List.filterMap_map, List.map_filterMap]
      exact List.filterMap_congr fun b _ => by simp only [entry, Option.map_map, Function.comp_def]
    have hflat : ((beneath.filterMap entry).map (·.2.2)).flatten = Visit.failures leaf (beneath.flatMap Prod.snd) := by
      rw [Visit.failures_flatMap, ← List.flatMap_def]
      refine flatMap_filterMap (fun b _ x hx => ?_) fun b hb hnone => ?_
      · obtain ⟨_, -, rfl⟩ := Option.map_eq_some_iff.1 hx
        rfl
      · -- a component that did not fail has no failures beneath it
        have hok : b.1.reply = .ok () := Visit.error?_eq_none.1 (Option.map_eq_none_iff.1 hnone)
        exact Visit.failures_eq_nil ((hconcludes b hb).ok_iff.1 hok)
    rw [Batch.verdict_eq_error he, ← hentries, ← hflat]
    refine .manager _ operation _ fun x hx => ?_
    obtain ⟨b, hb, hbx⟩ := List.mem_filterMap.1 hx
    obtain ⟨e', he', rfl⟩ := Option.map_eq_some_iff.1 hbx
    exact ih b hb (Visit.error?_eq_some.1 he')

/-- A manager that does not answer well answers with the error of its operation. -/
theorem Concludes.batch {seat : Part σ (Registry κ)} {children : κ → Tree σ κ β}
    (h : Concludes leaf operation w (.manager seat children) visits reply) {e : SupervisorError} (he : reply = .error e) :
    ∃ failures, e = .batch operation failures := by
  cases h with
  | manager beneath _ _ => exact ⟨_, Batch.verdict_eq_error he⟩

/-- An error of a manager counts the components beneath which a visit failed. -/
theorem Concludes.failedCount [DecidableEq κ] {seat : Part σ (Registry κ)} {children : κ → Tree σ κ α}
    {leaf : List κ × α → String} {visits : List (Visit (List κ × α))}
    (h : Concludes leaf operation w ((Tree.manager seat children).located []) visits reply) {e : SupervisorError}
    (he : reply = .error e) :
    e.failedCount = (seat.get w).members.countP fun k => visits.any fun v => v.failed && v.whom.1.head? == some k := by
  cases h with
  | manager beneath hwhom hconcludes =>
    -- the leaves beneath a component have places that begin with its identity
    have hhead : ∀ b ∈ beneath, ∀ v ∈ b.2, v.whom.1.head? = some b.1.whom := by
      intro b hb v hv
      have hmem : v.whom ∈ b.2.map Visit.whom := List.mem_map_of_mem hv
      rw [(hconcludes b hb).whom, Batch.mem_order] at hmem
      obtain ⟨rest, hrest⟩ := prefix_of_mem_located hmem
      rw [← hrest]
      rfl
    have hnodup : (beneath.map fun b => b.1.whom).Nodup := by
      rw [hwhom]
      exact Batch.nodup_order operation (seat.get w).nodup
    have hperm : (Batch.order operation (seat.get w).members).Perm (seat.get w).members := Batch.order_perm _ _
    have hfailed : ∀ b ∈ beneath, b.1.failed = true ↔
        (beneath.flatMap Prod.snd).any (fun v => v.failed && v.whom.1.head? == some b.1.whom) = true := by
      intro b hb
      rw [(hconcludes b hb).failed_iff, List.any_eq_true]
      constructor
      · rintro ⟨v, hv, hf⟩
        exact ⟨v, List.mem_flatMap.2 ⟨b, hb, hv⟩, by simp [hf, hhead b hb v hv]⟩
      · rintro ⟨v, hv, hf⟩
        obtain ⟨b', hb', hv'⟩ := List.mem_flatMap.1 hv
        simp only [hhead b' hb' v hv', Bool.and_eq_true, beq_iff_eq, Option.some.injEq] at hf
        exact ⟨v, List.inj_on_of_nodup_map hnodup hb' hb hf.2 ▸ hv', hf.1⟩
    rw [Batch.verdict_eq_error he, SupervisorError.failedCount, Batch.failures, ← hperm.countP_eq, ← hwhom, List.countP_map,
      List.length_filterMap_eq_countP, List.countP_map]
    refine List.countP_congr fun b hb => ?_
    simp only [Function.comp_apply, Option.isSome_map]
    exact hfailed b hb

/-- Nested managers answer for the flat list of their leaves, whatever each of these answers, as long as they call back none of the
managers. A start visits every leaf once at each place at which it is registered, from left to right, and a stop does so in the
exact reverse. The answer is an error exactly if a visit failed: that of the operation, which, written out, are the failed visits
in their order, and which counts the components of the outermost manager beneath which there are any. -/
theorem nested_managers_flatten [DecidableEq κ] (seat : Part σ (Registry κ)) (children : κ → Tree σ κ α)
    (leaf : α → Lifecycle σ) (operation : Request) (s : Stage σ)
    (hanswers : ∀ a ∈ (Tree.manager seat children).leaves s.world, ((leaf a).request operation).Returns)
    (hquiet : ∀ a ∈ (Tree.manager seat children).leaves s.world,
      ((leaf a).request operation).Keeps fun w => (Tree.manager seat children).Unmoved s.world w) :
    ∃ visits reply t,
      Act.recording [] (((Tree.manager seat children).recorded leaf).request operation) s = .ok (reply, visits) t ∧
      ((Tree.manager seat children).component leaf).request operation s = .ok reply t ∧
      visits.map Visit.whom = Batch.order operation ((Tree.manager seat children).occurrences s.world) ∧
      (∀ v ∈ visits, v.request = operation) ∧
      (reply = .ok () ↔ ∀ v ∈ visits, v.reply = .ok ()) ∧
      ∀ e, reply = .error e → (∃ failures, e = .batch operation failures) ∧
        WrittenOut ((Tree.manager seat children).located []) (Manager.name, e)
          (Visit.failures (fun x => (leaf x.2).name) visits) ∧
        e.failedCount =
          (seat.get s.world).members.countP fun k => visits.any fun v => v.failed && v.whom.1.head? == some k := by
  have hleaf : ∀ x ∈ ((Tree.manager seat children).located []).beside.leaves (([] : List (Visit (List κ × α))), s.world),
      ∀ u : Stage (List (Visit (List κ × α)) × σ), (Tree.manager seat children).Unmoved s.world u.world.2 →
        ∃ reply t, ((leaf x.2).recorded x).request operation u = .ok reply t ∧
          Visit.Recorded (fun x : List κ × α => leaf x.2) ⟨x, operation, reply⟩ u.world t.world ∧
            (Tree.manager seat children).Unmoved s.world t.world.2 := by
    intro x hx u hu
    have ha : x.2 ∈ (Tree.manager seat children).leaves s.world := by
      rw [leaves_beside] at hx
      rw [← leaves_located _ []]
      exact List.mem_map_of_mem hx
    obtain ⟨reply, t, ht⟩ := hanswers x.2 ha ⟨u.world.2, u.journal⟩
    have hkept := hquiet x.2 ha ⟨u.world.2, u.journal⟩ hu
    rw [Act.leaves_of_ok ht] at hkept
    exact ⟨reply, _, Lifecycle.recorded_request ht, ⟨rfl, _, _, ht⟩, hkept⟩
  obtain ⟨visits, reply, t, ht, hpasses, hrequest, hconcludes, -⟩ := request_visits _
    (fun u hu => (unmoved_beside _ ([], s.world) u).2 ((unmoved_located _ [] _ _).2 hu)) hleaf
    ⟨([], s.world), s.journal⟩ (unmoved_refl _ _)
  have hrecord : t.world.1 = visits := hpasses.recorded.1
  have hconclusion := hconcludes.of_beside
  have hrun : Act.recording [] (((Tree.manager seat children).recorded leaf).request operation) s =
      .ok (reply, visits) ⟨t.world.2, t.journal⟩ := by
    rw [← hrecord]
    exact Act.recording_ok ht
  refine ⟨visits, reply, ⟨t.world.2, t.journal⟩, hrun, ?_, hconclusion.whom, hrequest, hconclusion.ok_iff, ?_⟩
  · exact ((recorded_mirrors leaf _).request operation).of_recording hrun
  · exact fun e he => ⟨hconclusion.batch he, hconclusion.writtenOut he, hconclusion.failedCount he⟩

namespace Rehearsal

/-- The world of the rehearsal: the registrations of a manager, and those of the manager that it holds. -/
abbrev World := Registry Nat × Registry Nat

/-- Identity 1 stands for the inner manager, and every other one for the leaf of its number. -/
def held : Nat → Tree World Nat Nat
  | 1 => .manager Part.snd .leaf
  | n => .leaf n

/-- Leaves of odd number fail when they are stopped. -/
def worker (n : Nat) : Lifecycle World where
  name := "worker"
  request
    | .start => return .ok ()
    | .stop => return if n % 2 = 0 then .ok () else .error (.io "stuck")

/-- Leaves 0 and 3 are registered in both managers. -/
def stage : Stage World :=
  ⟨(⟨[0, 1, 3], by decide⟩, ⟨[3, 4, 0], by decide⟩), []⟩

theorem worker_apply (n : Nat) (operation : Request) (s : Stage World) :
    ∃ reply, (worker n).request operation s = .ok reply s := by
  cases operation with
  | start => exact ⟨_, rfl⟩
  | stop => exact ⟨_, rfl⟩

/-- How many components an error on record counts, with the failed visits. -/
def failedOf : EStateM.Result Interruption (Stage World) (Reply Unit × List (Visit (List Nat × Nat))) →
    Nat × List ((List Nat × Nat) × String × SupervisorError)
  | .ok (.error e, visits) _ => (e.failedCount, Visit.failures (fun x => (worker x.2).name) visits)
  | _ => (0, [])

end Rehearsal

/-- `nested_managers_flatten` for a stop in the rehearsal: leaf 3 fails at both of its places, and two components of the outer
manager count as failed. -/
theorem nested_managers_flatten_rehearsal :
    ∃ e t, ((Tree.manager Part.fst Rehearsal.held).component Rehearsal.worker).request .stop Rehearsal.stage = .ok (.error e) t ∧
      (Tree.manager Part.fst Rehearsal.held).occurrences Rehearsal.stage.world =
        [([0], 0), ([1, 3], 3), ([1, 4], 4), ([1, 0], 0), ([3], 3)] ∧
      WrittenOut ((Tree.manager Part.fst Rehearsal.held).located []) (Manager.name, e)
        [(([3], 3), "worker", .io "stuck"), (([1, 3], 3), "worker", .io "stuck")] ∧
      e.failedCount = 2 := by
  have hanswers : ∀ n, ((Rehearsal.worker n).request .stop).Returns := fun n s =>
    let ⟨reply, h⟩ := Rehearsal.worker_apply n .stop s
    ⟨reply, s, h⟩
  have hquiet : ∀ n, ((Rehearsal.worker n).request .stop).Keeps fun w =>
      (Tree.manager Part.fst Rehearsal.held).Unmoved Rehearsal.stage.world w := by
    intro n s hs
    obtain ⟨reply, h⟩ := Rehearsal.worker_apply n .stop s
    rw [Act.leaves_of_ok h]
    exact hs
  obtain ⟨visits, reply, t, hrecorded, hplain, -, -, -, herror⟩ := nested_managers_flatten Part.fst Rehearsal.held
    Rehearsal.worker .stop Rehearsal.stage (fun n _ => hanswers n) (fun n _ => hquiet n)
  have hfailed : Rehearsal.failedOf (Act.recording [] (((Tree.manager Part.fst Rehearsal.held).recorded
      Rehearsal.worker).request .stop) Rehearsal.stage) =
        (2, [(([3], 3), "worker", .io "stuck"), (([1, 3], 3), "worker", .io "stuck")]) := by
    rfl
  rw [hrecorded] at hfailed
  cases reply with
  | ok _ => cases hfailed
  | error e =>
    obtain ⟨hcount, hfailures⟩ := Prod.mk.inj hfailed
    obtain ⟨-, hwritten, -⟩ := herror e rfl
    exact ⟨e, t, hplain, rfl, hfailures ▸ hwritten, hcount⟩

end Tree

end Supervision

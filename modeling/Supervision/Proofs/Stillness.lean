import Supervision.Proofs.Tree
import Supervision.Proofs.HookHistory
import Supervision.Proofs.Coordinator
import Mathlib.Data.List.Nodup

/-!
# Nothing is left running

A stop of nested managers halts every state machine beneath them, whatever state it is in and however its hooks end: none of
them runs afterwards, and no hook is called but those that its state calls for (`Machine.Halted`). `Course.halted` says so of one
machine. That of many is the same, once for each of them, since a stop of one does not touch the others (`Fleet.Turn`,
`Passes.each`). What the hooks do is seen in their histories, one for each machine, which are kept beside the world.
-/

namespace Supervision

variable {σ κ ι α τ ε : Type}

namespace Machine

variable {hooks : Hooks σ}

/-- The machines that requests make of a fresh one, whatever the world is like when each of them comes. -/
inductive Reached (hooks : Hooks σ) : Machine → Prop where
  | fresh : Reached hooks {}
  | request {m m' : Machine} {r : Request} {s t : Stage σ} {reply : Reply Unit} : Reached hooks m →
      Machine.request hooks r ⟨(m, s.world), s.journal⟩ = .ok reply ⟨(m', t.world), t.journal⟩ → Reached hooks m'

/-- A machine whose hooks return is at rest between requests. -/
theorem Reached.sound (hreturn : hooks.Return) {m : Machine} (h : Reached hooks m) : m.Sound := by
  induction h with
  | fresh => exact sound_default
  | @request m m' r s t reply _ hrequest ih =>
    obtain ⟨deeds, reply', m'', t', hcourse⟩ := exists_course hooks hreturn r m s
    rw [hcourse.request_eq ih] at hrequest
    injection hrequest with _ hstage
    have hm : m'' = m' := congrArg (fun u : Stage (Machine × σ) => u.world.1) hstage
    exact hm ▸ hcourse.sound ih

/-- Every course of a request to a reached machine ends with one. -/
theorem Course.reached {r : Request} {m m' : Machine} {s t : Stage σ} {deeds : List HookDeed} {reply : Reply Unit}
    (h : Course hooks r m s deeds reply m' t) (hm : m.Sound) (hr : Reached hooks m) : Reached hooks m' :=
  hr.request (h.request_eq hm)

/-- What a stop makes of a machine, and what happens to its hooks meanwhile. -/
structure Halted (resettable : Bool) (m : Machine) (deeds : List HookDeed) (m' : Machine) : Prop where
  /-- It does not run. -/
  still : m'.state = .stopped ∨ m'.state = .failed
  /-- If it was started, it is stopped once, and not reset. -/
  started : m.state = .started → ∃ outcome, deeds.filterMap HookDeed.call = [(.stop, outcome)]
  /-- If it was stopped, or failed for good, it is left as it is. -/
  idle : m.state = .stopped ∨ m.state = .failed ∧ resettable = false → deeds = [] ∧ m' = m
  /-- If it failed and can recover, it is reset once, and then stopped once exactly if the reset went well. -/
  failed : m.state = .failed → resettable = true →
    (∃ cause, deeds.filterMap HookDeed.call = [(.reset, .error cause)]) ∨
      ∃ outcome, deeds.filterMap HookDeed.call = [(.reset, .ok ()), (.stop, outcome)]

/-- A request that is carried out leaves a machine where it was to go, or failed. -/
theorem Carried.state {r : Request} {state : State} {s t : Stage σ} {deeds : List HookDeed} {reply : Reply Unit} {m' : Machine}
    (h : Carried hooks r state s deeds reply m' t) : m'.state = r.goal ∨ m'.state = .failed := by
  cases h with
  | done _ => exact .inl rfl
  | failed _ _ => exact .inr rfl

/-- Every course of a stop halts a machine at rest. -/
theorem Course.halted {m m' : Machine} {s t : Stage σ} {deeds : List HookDeed} {reply : Reply Unit}
    (h : Course hooks .stop m s deeds reply m' t) (hm : m.Sound) : Halted hooks.resettable m deeds m' := by
  have hsettled := hm.settled
  cases h with
  | refused hedge =>
    cases hstate : m.state <;> rw [hstate] at hedge hsettled
    case stopped => exact ⟨.inl hstate, by simp [hstate], fun _ => ⟨rfl, rfl⟩, by simp [hstate]⟩
    case failed =>
      have hreset : hooks.resettable = false := by
        cases hr : hooks.resettable with
        | false => rfl
        | true => rw [hr] at hedge; cases hedge
      exact ⟨.inr hstate, by simp [hstate], fun _ => ⟨rfl, rfl⟩, by simp [hreset]⟩
    case started => cases hedge
    all_goals exact hsettled.elim
  | direct hne hedge hend =>
    have hstate : m.state = .started := by
      cases hstate : m.state <;> rw [hstate] at hedge hne
      case failed => exact absurd rfl hne
      all_goals cases hedge
    exact ⟨hend.state, fun _ => hend.calls, by simp [hstate], by simp [hstate]⟩
  | resetFailed hstate hreset _ _ =>
    exact ⟨.inr rfl, by simp [hstate], by simp [hstate, hreset], fun _ _ => .inl ⟨_, rfl⟩⟩
  | afterReset hstate hreset _ hend =>
    obtain ⟨outcome, hcall⟩ := hend.calls
    refine ⟨hend.state, by simp [hstate], by simp [hstate, hreset], fun _ _ => .inr ⟨outcome, ?_⟩⟩
    rw [List.filterMap_cons, hcall]
    rfl

end Machine

/-! ## Histories of several components -/

/-- The history of one of several components, and the world. -/
def Part.history [DecidableEq ι] (i : ι) : Part ((ι → List HookDeed) × σ) (List HookDeed × σ) where
  get p := (p.1 i, p.2)
  set q p := (Function.update p.1 i q.1, q.2)

/-- What is done to the world while one history is kept is done to it while there are others. -/
theorem Part.history_mirrors [DecidableEq ι] (i : ι) {y : Act (List HookDeed × σ) α} {x : Act σ α}
    (h : Act.Mirrors Prod.snd y x) : Act.Mirrors Prod.snd ((Part.history i).focus y) x := by
  intro s
  have hx : x (s.seen Prod.snd) = Act.seen Prod.snd (y ⟨(s.world.1 i, s.world.2), s.journal⟩) :=
    h ⟨(s.world.1 i, s.world.2), s.journal⟩
  rw [hx]
  cases hy : y ⟨(s.world.1 i, s.world.2), s.journal⟩ with
  | ok a t => rw [show (Part.history i).focus y s = _ from Part.focus_ok hy]; rfl
  | error e t => rw [show (Part.history i).focus y s = _ from Part.focus_error hy]; rfl

/-- Where each of several steps concerns another one of many things, what a step does to its own is what all of them do to it. -/
theorem Passes.each {step : ε → σ → σ → Prop} (whom : ε → ι) (view : ι → σ → τ) (R : ε → τ → τ → Prop) (S : ι → Prop)
    (hstep : ∀ x w w', step x w w' →
      R x (view (whom x) w) (view (whom x) w') ∧ ∀ j, S j → j ≠ whom x → view j w' = view j w)
    {xs : List ε} {w w' : σ} (h : Passes step w xs w') (honce : (xs.map whom).Nodup) :
    (∀ x ∈ xs, S (whom x) → R x (view (whom x) w) (view (whom x) w')) ∧
      ∀ i, S i → i ∉ xs.map whom → view i w' = view i w := by
  induction h with
  | nil w => exact ⟨nofun, fun _ _ _ => rfl⟩
  | @cons x xs w u w' hfirst _ ih =>
    rw [List.map_cons, List.nodup_cons] at honce
    obtain ⟨hown, hothers⟩ := hstep x w u hfirst
    obtain ⟨ihin, ihout⟩ := ih honce.2
    refine ⟨fun y hy hS => ?_, fun i hS hi => ?_⟩
    · rcases List.mem_cons.1 hy with rfl | hy
      · -- the first step concerns its own, and no later one does
        rw [ihout _ hS honce.1]
        exact hown
      · have hne : whom y ≠ whom x := fun h => honce.1 (h ▸ List.mem_map_of_mem hy)
        rw [← hothers _ hS hne]
        exact ihin y hy hS
    · rw [List.map_cons, List.mem_cons, not_or] at hi
      rw [ihout i hS hi.2, hothers i hS hi.1]

/-! ## State machines at the leaves of a tree -/

/-- State machines that are told apart by their identities: where each of them is kept, and its hooks. -/
structure Fleet (σ ι : Type) where
  machine : ι → Part σ Machine
  hooks : ι → Hooks σ

namespace Fleet

/-- A state machine of a fleet as a component. -/
def leaf (fleet : Fleet σ ι) (i : ι) : Lifecycle σ :=
  Machine.component (fleet.machine i) (fleet.hooks i)

/-- A state machine of a fleet as a component, with its hooks on record. -/
def recorded [DecidableEq ι] (fleet : Fleet σ ι) (i : ι) : Lifecycle ((ι → List HookDeed) × σ) where
  name := (fleet.hooks i).name
  request r := (Part.history i).focus
    ((Machine.component (Part.snd.comp (fleet.machine i)) (fleet.hooks i).recorded).request r)

/-- Nothing of the supervisor is touched: the registrations of a tree, and the machines at its leaves, are as they were. -/
structure Spared (fleet : Fleet σ ι) (tree : Tree σ κ ι) (w w' : σ) : Prop where
  unmoved : tree.Unmoved w w'
  machine : ∀ i ∈ tree.leaves w, (fleet.machine i).get w' = (fleet.machine i).get w

/-- Each machine of a fleet has a place of its own, apart from the other ones and from the registrations of a tree. -/
structure Apart (fleet : Fleet σ ι) (tree : Tree σ κ ι) : Prop where
  lawful : ∀ i, (fleet.machine i).Lawful
  machines : ∀ i j, i ≠ j → ∀ m w, (fleet.machine j).get ((fleet.machine i).set m w) = (fleet.machine j).get w
  registrations : ∀ i m w, tree.Unmoved w ((fleet.machine i).set m w)

/-- Hooks that keep to themselves: they answer whenever they are called, and touch nothing of the supervisor. -/
structure Discreet (fleet : Fleet σ ι) (tree : Tree σ κ ι) (i : ι) : Prop where
  returns : (fleet.hooks i).Return
  invoke : ∀ phase, ((fleet.hooks i).invoke phase).Leads (fleet.Spared tree)
  failed : ∀ e, ((fleet.hooks i).failed e).Leads (fleet.Spared tree)

variable {fleet : Fleet σ ι} {tree : Tree σ κ ι}

theorem spared_refl (w : σ) : fleet.Spared tree w w :=
  ⟨tree.unmoved_refl w, fun _ _ => rfl⟩

theorem Spared.trans {w w' w'' : σ} (h : fleet.Spared tree w w') (h' : fleet.Spared tree w' w'') :
    fleet.Spared tree w w'' := by
  refine ⟨h.unmoved.trans h'.unmoved, fun i hi => ?_⟩
  have hi' : i ∈ tree.leaves w' := by rwa [h.unmoved.leaves_eq]
  rw [h'.machine i hi', h.machine i hi]

theorem recorded_mirrors [DecidableEq ι] (fleet : Fleet σ ι) (i : ι) :
    (fleet.recorded i).Mirrors Prod.snd (fleet.leaf i) where
  name := rfl
  request r := Part.history_mirrors i
    ((Machine.component_mirrors (Part.shows_beside _) (fleet.hooks i).recorded_mirrors).request r)

/-- In its turn a machine is halted, and what happens to its hooks joins its history. The registrations are not touched, nor are
the other machines and their histories. -/
structure Turn (fleet : Fleet σ ι) (tree : Tree σ κ ι) (w : σ) (v : Visit ι) (p p' : (ι → List HookDeed) × σ) : Prop where
  own : ∃ deeds, p'.1 v.whom = p.1 v.whom ++ deeds ∧ Machine.Halted (fleet.hooks v.whom).resettable
    ((fleet.machine v.whom).get p.2) deeds ((fleet.machine v.whom).get p'.2)
  others : ∀ j ∈ tree.leaves w, j ≠ v.whom → p'.1 j = p.1 j ∧ (fleet.machine j).get p'.2 = (fleet.machine j).get p.2

/-- The machines of a tree are at rest, and registered as they were. -/
structure AtRest (fleet : Fleet σ ι) (tree : Tree σ κ ι) (w w' : σ) : Prop where
  unmoved : tree.Unmoved w w'
  sound : ∀ i ∈ tree.leaves w, ((fleet.machine i).get w').Sound

/-- What happens to the hooks of a machine in the course of a request joins its history. -/
theorem recorded_apply [DecidableEq ι] {i : ι} {r : Request} {u : Stage ((ι → List HookDeed) × σ)} {deeds : List HookDeed}
    {reply : Reply Unit} {m' : Machine} {t : Stage σ}
    (h : Machine.Course (fleet.hooks i) r ((fleet.machine i).get u.world.2) ⟨u.world.2, u.journal⟩ deeds reply m' t)
    (hsound : ((fleet.machine i).get u.world.2).Sound) :
    (fleet.recorded i).request r u =
      .ok reply ⟨(Function.update u.world.1 i (u.world.1 i ++ deeds), (fleet.machine i).set m' t.world), t.journal⟩ := by
  have hrun : (Machine.component (Part.snd.comp (fleet.machine i)) (fleet.hooks i).recorded).request r
      ⟨(Part.history i).get u.world, u.journal⟩ = _ := (h.recorded (u.world.1 i)).component_eq rfl hsound
  exact Part.focus_ok hrun

/-- The course of a request to a machine at rest, if its hooks spare the supervisor: the machine is what the course leaves, the
other ones are as they were, and all of them are at rest. -/
theorem recorded_course [DecidableEq ι] (hapart : fleet.Apart tree) {w : σ} {i : ι} (hi : i ∈ tree.leaves w) {r : Request}
    {u : Stage ((ι → List HookDeed) × σ)} (hu : fleet.AtRest tree w u.world.2) {deeds : List HookDeed} {reply : Reply Unit}
    {m' : Machine} {t : Stage σ}
    (h : Machine.Course (fleet.hooks i) r ((fleet.machine i).get u.world.2) ⟨u.world.2, u.journal⟩ deeds reply m' t)
    (hspared : fleet.Spared tree u.world.2 t.world) :
    ∃ v, (fleet.recorded i).request r u = .ok reply v ∧ v.world.2 = (fleet.machine i).set m' t.world ∧
      v.world.1 i = u.world.1 i ++ deeds ∧ (fleet.machine i).get v.world.2 = m' ∧
      (∀ j ∈ tree.leaves w, j ≠ i →
        v.world.1 j = u.world.1 j ∧ (fleet.machine j).get v.world.2 = (fleet.machine j).get u.world.2) ∧
      fleet.AtRest tree w v.world.2 := by
  have hsound := hu.sound i hi
  have hown : (fleet.machine i).get ((fleet.machine i).set m' t.world) = m' := (hapart.lawful i).get_set _ _
  have hothers : ∀ j ∈ tree.leaves w, j ≠ i →
      (fleet.machine j).get ((fleet.machine i).set m' t.world) = (fleet.machine j).get u.world.2 := by
    intro j hj hne
    rw [hapart.machines i j (Ne.symm hne)]
    exact hspared.machine j (by rwa [hu.unmoved.leaves_eq])
  refine ⟨_, recorded_apply h hsound, rfl, Function.update_self _ _ _, hown, fun j hj hne => ?_, ?_, fun j hj => ?_⟩
  · exact ⟨Function.update_of_ne hne _ _, hothers j hj hne⟩
  · exact hu.unmoved.trans (hspared.unmoved.trans (hapart.registrations i m' t.world))
  · by_cases hji : j = i
    · subst hji
      rw [hown]
      exact h.sound hsound
    · rw [hothers j hj hji]
      exact hu.sound j hj

/-- A stop of a machine at rest is a turn of it, and leaves all machines at rest. -/
theorem recorded_stop [DecidableEq ι] (hapart : fleet.Apart tree) {w : σ} {i : ι} (hi : i ∈ tree.leaves w)
    (hdiscreet : fleet.Discreet tree i) {u : Stage ((ι → List HookDeed) × σ)} (hu : fleet.AtRest tree w u.world.2) :
    ∃ reply t, (fleet.recorded i).request .stop u = .ok reply t ∧ fleet.Turn tree w ⟨i, .stop, reply⟩ u.world t.world ∧
      fleet.AtRest tree w t.world.2 := by
  obtain ⟨deeds, reply, m', t, hcourse⟩ := Machine.exists_course (fleet.hooks i) hdiscreet.returns .stop
    ((fleet.machine i).get u.world.2) ⟨u.world.2, u.journal⟩
  have hspared : fleet.Spared tree u.world.2 t.world :=
    hcourse.keeps (fun phase => (hdiscreet.invoke phase).keeps fun _ _ h h' => h'.trans h)
      (fun e => (hdiscreet.failed e).keeps fun _ _ h h' => h'.trans h) (spared_refl _)
  obtain ⟨v, hv, -, hhistory, hmachine, hothers, hrest⟩ := recorded_course hapart hi hu hcourse hspared
  refine ⟨reply, v, hv, ⟨⟨deeds, hhistory, ?_⟩, hothers⟩, hrest⟩
  rw [hmachine]
  exact hcourse.halted (hu.sound i hi)

/-- All machines that were registered in a tree were halted, and the registrations are as they were. -/
structure Stilled (fleet : Fleet σ ι) (tree : Tree σ κ ι) (w : σ) (history : ι → List HookDeed) (w' : σ) : Prop where
  unmoved : tree.Unmoved w w'
  halted : ∀ i ∈ tree.leaves w,
    Machine.Halted (fleet.hooks i).resettable ((fleet.machine i).get w) (history i) ((fleet.machine i).get w')

/-- A run answers, and halts the machines that are registered in a tree when it begins. It is made as it is and with the hooks
on record; what is recorded are their histories. -/
def Stills (fleet : Fleet σ ι) (tree : Tree σ κ ι) (recorded : Act ((ι → List HookDeed) × σ) α) (run : Act σ α) (s : Stage σ) :
    Prop :=
  ∃ a history t, Act.recording (fun _ => []) recorded s = .ok (a, history) t ∧ run s = .ok a t ∧
    fleet.Stilled tree s.world history t.world

/-- What is registered in a tree are machines in reached states, each once, whose hooks keep to themselves. -/
structure Manned (fleet : Fleet σ ι) (tree : Tree σ κ ι) (w : σ) : Prop where
  once : (tree.leaves w).Nodup
  discreet : ∀ i ∈ tree.leaves w, fleet.Discreet tree i
  reached : ∀ i ∈ tree.leaves w, Machine.Reached (fleet.hooks i) ((fleet.machine i).get w)

theorem Manned.of_spared {w w' : σ} (h : fleet.Manned tree w) (hs : fleet.Spared tree w w') : fleet.Manned tree w' := by
  refine ⟨?_, ?_, fun i hi => ?_⟩
  · rw [hs.unmoved.leaves_eq]
    exact h.once
  · rw [hs.unmoved.leaves_eq]
    exact h.discreet
  · rw [hs.unmoved.leaves_eq] at hi
    rw [hs.machine i hi]
    exact h.reached i hi

/-- What was spared before may have been stilled from the start. -/
theorem Stilled.of_spared {w w' w'' : σ} {history : ι → List HookDeed} (h : fleet.Stilled tree w' history w'')
    (hs : fleet.Spared tree w w') : fleet.Stilled tree w history w'' := by
  refine ⟨hs.unmoved.trans h.unmoved, fun i hi => ?_⟩
  rw [← hs.machine i hi]
  exact h.halted i (by rwa [hs.unmoved.leaves_eq])

/-- What is seen with the hooks on record is true of the run itself. -/
theorem Stills.of_recorded {recorded : Act ((ι → List HookDeed) × σ) α} {run : Act σ α} {s t : Stage σ} {a : α}
    {history : ι → List HookDeed} (hm : Act.Mirrors Prod.snd recorded run)
    (h : recorded ⟨(fun _ => [], s.world), s.journal⟩ = .ok a ⟨(history, t.world), t.journal⟩)
    (hs : fleet.Stilled tree s.world history t.world) : fleet.Stills tree recorded run s :=
  have hrecording := Act.recording_ok h
  ⟨a, history, t, hrecording, hm.of_recording hrecording, hs⟩

end Fleet

namespace Tree

variable {fleet : Fleet σ ι} {tree : Tree σ κ ι}

/-- A stop of a tree halts the machines at its leaves. -/
theorem stop_stilled [DecidableEq ι] (hapart : fleet.Apart tree) {s : Stage σ} (hs : fleet.Manned tree s.world) :
    ∃ reply history, ∃ t : Stage σ,
      (tree.beside.component fleet.recorded).request .stop ⟨(fun _ => [], s.world), s.journal⟩ =
        .ok reply ⟨(history, t.world), t.journal⟩ ∧ fleet.Stilled tree s.world history t.world := by
  let start : (ι → List HookDeed) × σ := (fun _ => [], s.world)
  have hunmoved : ∀ p : (ι → List HookDeed) × σ, fleet.AtRest tree s.world p.2 → tree.beside.Unmoved start p :=
    fun p hp => (unmoved_beside tree start p).2 hp.unmoved
  have hturn : ∀ i ∈ tree.beside.leaves start, ∀ u : Stage ((ι → List HookDeed) × σ), fleet.AtRest tree s.world u.world.2 →
      ∃ reply t, (fleet.recorded i).request .stop u = .ok reply t ∧
        fleet.Turn tree s.world ⟨i, .stop, reply⟩ u.world t.world ∧ fleet.AtRest tree s.world t.world.2 := by
    intro i hi u hu
    rw [leaves_beside] at hi
    exact Fleet.recorded_stop hapart hi (hs.discreet i hi) hu
  obtain ⟨visits, reply, t, ht, hpasses, -, hconcludes, hrest⟩ := request_visits tree.beside hunmoved hturn
    ⟨start, s.journal⟩ ⟨tree.unmoved_refl _, fun i hi => (hs.reached i hi).sound (hs.discreet i hi).returns⟩
  have hwhom : visits.map Visit.whom = (tree.leaves s.world).reverse := by
    rw [hconcludes.whom, leaves_beside]
    rfl
  have honce : (visits.map Visit.whom).Nodup := by
    rw [hwhom]
    exact List.nodup_reverse.2 hs.once
  refine ⟨reply, t.world.1, ⟨t.world.2, t.journal⟩, ht, hrest.unmoved, fun i hi => ?_⟩
  -- every machine has one turn, so that what is true of its turn is true of the whole pass
  obtain ⟨heach, -⟩ := Passes.each Visit.whom (fun i p => (p.1 i, (fleet.machine i).get p.2))
    (fun v q q' => ∃ deeds, q'.1 = q.1 ++ deeds ∧ Machine.Halted (fleet.hooks v.whom).resettable q.2 deeds q'.2)
    (· ∈ tree.leaves s.world)
    (fun v p p' h => ⟨h.own, fun j hj hne => Prod.ext (h.others j hj hne).1 (h.others j hj hne).2⟩) hpasses honce
  have hvisited : i ∈ visits.map Visit.whom := by
    rw [hwhom]
    exact List.mem_reverse.2 hi
  obtain ⟨v, hv, rfl⟩ := List.mem_map.1 hvisited
  obtain ⟨deeds, hhistory, hhalted⟩ := heach v hv hi
  rw [show t.world.1 v.whom = deeds from hhistory]
  exact hhalted

/-! ## Managers and coordinators -/

/-- A manager of trees. -/
def manage (seat : Part σ (Registry κ)) (children : κ → Tree σ κ α) (leaf : α → Lifecycle σ) : Manager σ κ :=
  ⟨seat, fun k => (children k).component leaf⟩

variable [DecidableEq ι] {seat : Part σ (Registry κ)} {children : κ → Tree σ κ ι}

theorem manage_mirrors (fleet : Fleet σ ι) (seat : Part σ (Registry κ)) (children : κ → Tree σ κ ι) :
    Manager.Mirrors Prod.snd (manage (Part.snd.comp seat) (fun k => (children k).beside) fleet.recorded)
      (manage seat children fleet.leaf) :=
  ⟨Part.shows_beside seat, fun k => beside_mirrors fleet.recorded_mirrors (children k)⟩

/-- An exit pass of a coordinator halts the machines beneath what is registered. -/
theorem exitPass_stilled {c : Coordinator σ κ} (hook : ProcessHook σ)
    (hapart : fleet.Apart (.manager (c.seat.comp Registration.registryPart) children)) {s : Stage σ}
    (hs : fleet.Manned (.manager (c.seat.comp Registration.registryPart) children) s.world) :
    ∃ history, ∃ t : Stage σ,
      (c.beside hook fun k => (children k).beside.component fleet.recorded).runExitAction
          ⟨(fun _ => [], s.world), s.journal⟩ = .ok () ⟨(history, t.world), t.journal⟩ ∧
        fleet.Stilled (.manager (c.seat.comp Registration.registryPart) children) s.world history t.world := by
  have hs' : fleet.Manned (.manager (c.seat.comp Registration.registryPart) children)
      (s.tell [.stoppingOnExit (c.seat.get s.world).registry.size]).world := hs
  obtain ⟨reply, history, t, ht, hstilled⟩ := stop_stilled hapart hs'
  have hpass : ∃ events, (c.beside hook fun k => (children k).beside.component fleet.recorded).runExitAction
      ⟨(fun _ => [], s.world), s.journal⟩ = .ok () (Stage.tell ⟨(history, t.world), t.journal⟩ events) :=
    Coordinator.runExitAction_apply ht
  obtain ⟨events, hpass⟩ := hpass
  exact ⟨history, t.tell events, hpass, hstilled⟩

/-- A stop leaves nothing running: neither a stop of nested managers, whether its failure is handed on or only logged, nor an
exit pass of a coordinator over them, nor a firing of its hook. Every machine beneath is halted once, in whatever state it was
and however its hooks end, as long as they touch nothing of the supervisor. -/
theorem stop_leaves_nothing_running {s : Stage σ} (hapart : fleet.Apart (.manager seat children))
    (hs : fleet.Manned (.manager seat children) s.world) :
    fleet.Stills (.manager seat children)
      ((manage (Part.snd.comp seat) (fun k => (children k).beside) fleet.recorded).request .stop)
      ((manage seat children fleet.leaf).request .stop) s ∧
    fleet.Stills (.manager seat children)
      ((manage (Part.snd.comp seat) (fun k => (children k).beside) fleet.recorded).quietly .stop)
      ((manage seat children fleet.leaf).quietly .stop) s ∧
    ∀ (c : Coordinator σ κ) (hook : ProcessHook σ), c.manager = manage seat children fleet.leaf →
      fleet.Stills (.manager seat children)
        (c.beside hook fun k => (children k).beside.component fleet.recorded).runExitAction c.runExitAction s ∧
      (c.Guarded hook → hook.consume.Leads (fleet.Spared (.manager seat children)) →
        (c.mark false).Leads (fleet.Spared (.manager seat children)) → (hook.state s.world).armed = true →
          fleet.Stills (.manager seat children)
            (hook.beside.fire (c.beside hook fun k => (children k).beside.component fleet.recorded).exitAction)
            (hook.fire c.exitAction) s) := by
  obtain ⟨reply, history, t, ht, hstilled⟩ := stop_stilled hapart hs
  have hquietly : ∃ well events, (manage (Part.snd.comp seat) (fun k => (children k).beside) fleet.recorded).quietly .stop
      ⟨(fun _ => [], s.world), s.journal⟩ = .ok well (Stage.tell ⟨(history, t.world), t.journal⟩ events) :=
    Manager.quietly_apply ht
  obtain ⟨well, events, hquiet⟩ := hquietly
  have hmirrors := manage_mirrors fleet seat children
  refine ⟨.of_recorded (hmirrors.request .stop) ht hstilled,
    .of_recorded (t := t.tell events) (hmirrors.quietly .stop) hquiet hstilled, fun c hook hc => ?_⟩
  obtain ⟨rfl, hcomponent⟩ := Manager.mk.inj hc
  have hleaf : ∀ k, Lifecycle.Mirrors Prod.snd ((children k).beside.component fleet.recorded) (c.component k) := fun k => by
    rw [hcomponent]
    exact beside_mirrors fleet.recorded_mirrors (children k)
  constructor
  · obtain ⟨history, t, ht, hstilled⟩ := exitPass_stilled hook hapart hs
    exact .of_recorded (Coordinator.runExitAction_mirrors hleaf) ht hstilled
  · intro hg hconsume hmark harmed
    obtain ⟨u, hu, -, -⟩ := hg.honest.consume s
    have hspared : fleet.Spared (.manager (c.seat.comp Registration.registryPart) children) s.world
        (c.seat.set { c.seat.get u.world with installed := false } u.world) := by
      have h := hconsume s
      rw [Act.leaves_of_ok hu] at h
      exact h.trans (hmark u)
    obtain ⟨history, t, ht, hstilled⟩ := exitPass_stilled (c := c)
      (s := ⟨c.seat.set { c.seat.get u.world with installed := false } u.world, u.journal⟩) hook hapart (hs.of_spared hspared)
    have hconsumed : hook.beside.consume ⟨((fun _ => [] : ι → List HookDeed), s.world), s.journal⟩ =
        .ok () ⟨(fun _ => [], u.world), u.journal⟩ := Part.focus_ok hu
    have hfire : hook.beside.fire (c.beside hook fun k => (children k).beside.component fleet.recorded).exitAction
        ⟨(fun _ => [], s.world), s.journal⟩ = _ := Coordinator.fire_armed harmed hconsumed
    exact .of_recorded (Coordinator.fire_mirrors hleaf) (hfire.trans ht) (hstilled.of_spared hspared)

end Tree

/-! ## A rehearsal -/

namespace Fleet.Rehearsal

/-- What the rehearsal adds to an exit hook on paper: what a coordinator keeps, the registrations of a manager that it holds,
machines, and the endings of the next calls of their hooks. -/
structure Floor where
  registration : Registration Nat
  inner : Registry Nat
  machines : Nat → Machine
  script : List (Except Cause Unit)

abbrev World := List HookCall × HookLedger × Floor

def floor : Part World Floor := Part.snd.comp Part.snd

def registration : Part Floor (Registration Nat) := ⟨Floor.registration, fun registration f => { f with registration }⟩

def inner : Part Floor (Registry Nat) := ⟨Floor.inner, fun inner f => { f with inner }⟩

def script : Part Floor (List (Except Cause Unit)) := ⟨Floor.script, fun script f => { f with script }⟩

def machine (n : Nat) : Part Floor Machine :=
  ⟨fun f => f.machines n, fun m f => { f with machines := Function.update f.machines n m }⟩

/-- The next call of a hook ends as the script says. -/
def next : Act World (Except Cause Unit) := do
  let rest ← (floor.comp script).read
  (floor.comp script).modify List.tail
  return rest.headD (.ok ())

/-- Machines of even number can recover; all of them swallow their failures. -/
def fleet : Fleet World Nat where
  machine n := floor.comp (machine n)
  hooks n := {
    name := "worker"
    resettable := n % 2 == 0
    start := next
    stop := next
    reset := next
    failed := fun _ => return .ok () }

/-- Identity 1 stands for the inner manager, and every other one for the machine of its number. -/
def held : Nat → Tree World Nat Nat
  | 1 => .manager (floor.comp inner) .leaf
  | n => .leaf n

def coordinator : Coordinator World Nat where
  seat := floor.comp registration
  hook := HookLedger.processHook.toExitHook
  component k := (held k).component fleet.leaf

def tree : Tree World Nat Nat :=
  .manager ((floor.comp registration).comp Registration.registryPart) held

/-- Machine 0 runs; machines 2, 3 and 4 have failed. -/
def machines : Nat → Machine
  | 0 => ⟨.started, none⟩
  | _ => ⟨.failed, some ⟨"jammed", []⟩⟩

/-- The hook is armed. Machine 4 is asked first and cannot be reset, machine 3 cannot recover, machine 2 is reset and stopped, and
the stop of machine 0 fails. -/
def stage : Stage World :=
  ⟨([], { armed := true }, {
    registration := { registry := ⟨[0, 1, 4], by decide⟩, count := 3, installed := true }
    inner := ⟨[2, 3], by decide⟩
    machines
    script := [.error ⟨"broken", []⟩, .ok (), .ok (), .error ⟨"stuck", []⟩] }), []⟩

/-- The tree is the same where both registries are. -/
theorem unmoved_of {w w' : World} (hregistry : (floor.get w').registration.registry = (floor.get w).registration.registry)
    (hinner : (floor.get w').inner = (floor.get w).inner) : tree.Unmoved w w' := by
  refine ⟨hregistry, fun k _ => ?_⟩
  unfold held
  split
  · exact ⟨hinner, fun _ _ => trivial⟩
  · trivial

theorem spared_of {w w' : World} (hregistry : (floor.get w').registration.registry = (floor.get w).registration.registry)
    (hinner : (floor.get w').inner = (floor.get w).inner) (hmachines : (floor.get w').machines = (floor.get w).machines) :
    fleet.Spared tree w w' :=
  ⟨unmoved_of hregistry hinner, fun n _ => congrFun hmachines n⟩

theorem lawful_machine (n : Nat) : (machine n).Lawful where
  get_set m f := by simp [machine]
  set_get f := by simp [machine]
  set_set m m' f := by simp [machine]

theorem apart : fleet.Apart tree where
  lawful n := Part.Lawful.comp (Part.lawful_snd.comp Part.lawful_snd) (lawful_machine n)
  machines i j hne m w := by simp [fleet, machine, Part.comp, floor, Part.snd, Ne.symm hne]
  registrations _ _ _ := unmoved_of rfl rfl

theorem discreet (n : Nat) : fleet.Discreet tree n where
  returns := ⟨fun phase s => by cases phase <;> exact ⟨_, _, rfl⟩, fun _ _ => ⟨_, _, rfl⟩⟩
  invoke phase s := by cases phase <;> exact spared_of rfl rfl rfl
  failed _ s := spared_refl _

/-- A stage on which the next call of a hook ends so. -/
def ending (outcome : Except Cause Unit) : Stage World :=
  ⟨([], {}, { registration := {}, inner := .empty, machines := fun _ => {}, script := [outcome] }), []⟩

theorem reached (n : Nat) : Machine.Reached (fleet.hooks n) (machines n) := by
  have hedge : transition .stopped .start (fleet.hooks n).resettable = some .starting := rfl
  unfold machines
  split
  · have hcourse : Machine.Course (fleet.hooks 0) .start {} (ending (.ok ())) _ _ ⟨.started, none⟩ _ :=
      .direct nofun hedge (.done rfl)
    exact hcourse.reached Machine.sound_default .fresh
  · have hcourse : Machine.Course (fleet.hooks n) .start {} (ending (.error ⟨"jammed", []⟩)) _ _
        ⟨.failed, some ⟨"jammed", []⟩⟩ _ := .direct nofun hedge (.failed rfl rfl)
    exact hcourse.reached Machine.sound_default .fresh

theorem manned : fleet.Manned tree stage.world where
  once := by decide
  discreet n _ := discreet n
  reached n _ := reached n

theorem guarded : coordinator.Guarded HookLedger.processHook where
  seat := (Part.lawful_snd.comp Part.lawful_snd).comp ⟨fun _ _ => rfl, fun _ => rfl, fun _ _ _ => rfl⟩
  hook_eq := rfl
  honest := HookLedger.honest_processHook.comp registration

/-- The machines at the end of a run. -/
def final : EStateM.Result Interruption (Stage World) Unit → List Machine
  | .ok _ t => [0, 2, 3, 4].map (floor.get t.world).machines
  | .error _ _ => []

end Fleet.Rehearsal

/-- `stop_leaves_nothing_running` for a firing in the rehearsal: machine 0 ran and machine 2 can recover, the other two stay
failed, and none of them runs. -/
theorem Tree.stop_leaves_nothing_running_rehearsal :
    ∃ history t, Act.recording (fun _ => []) (HookLedger.processHook.beside.fire (Fleet.Rehearsal.coordinator.beside
        HookLedger.processHook fun k => (Fleet.Rehearsal.held k).beside.component Fleet.Rehearsal.fleet.recorded).exitAction)
          Fleet.Rehearsal.stage = .ok ((), history) t ∧
      HookLedger.processHook.fire Fleet.Rehearsal.coordinator.exitAction Fleet.Rehearsal.stage = .ok () t ∧
      Fleet.Rehearsal.fleet.Stilled Fleet.Rehearsal.tree Fleet.Rehearsal.stage.world history t.world ∧
      Fleet.Rehearsal.tree.leaves Fleet.Rehearsal.stage.world = [0, 2, 3, 4] ∧
      [0, 2, 3, 4].map (Fleet.Rehearsal.floor.get t.world).machines =
        [⟨.failed, some ⟨"stuck", []⟩⟩, ⟨.stopped, none⟩, ⟨.failed, some ⟨"jammed", []⟩⟩, ⟨.failed, some ⟨"broken", []⟩⟩] := by
  obtain ⟨-, -, hcoordinator⟩ := stop_leaves_nothing_running Fleet.Rehearsal.apart Fleet.Rehearsal.manned
  have hspares : HookLedger.processHook.consume.Leads (Fleet.Rehearsal.fleet.Spared Fleet.Rehearsal.tree) :=
    fun _ => Fleet.Rehearsal.spared_of rfl rfl rfl
  have hmark : (Fleet.Rehearsal.coordinator.mark false).Leads (Fleet.Rehearsal.fleet.Spared Fleet.Rehearsal.tree) :=
    fun _ => Fleet.Rehearsal.spared_of rfl rfl rfl
  obtain ⟨-, hfire⟩ := hcoordinator Fleet.Rehearsal.coordinator HookLedger.processHook rfl
  obtain ⟨_, history, t, hrecorded, hrun, hstilled⟩ := hfire Fleet.Rehearsal.guarded hspares hmark rfl
  have hfinal : Fleet.Rehearsal.final
      (HookLedger.processHook.fire Fleet.Rehearsal.coordinator.exitAction Fleet.Rehearsal.stage) =
        [⟨.failed, some ⟨"stuck", []⟩⟩, ⟨.stopped, none⟩, ⟨.failed, some ⟨"jammed", []⟩⟩, ⟨.failed, some ⟨"broken", []⟩⟩] := by
    decide +kernel
  rw [hrun] at hfinal
  exact ⟨history, t, hrecorded, hrun, hstilled, rfl, hfinal⟩

end Supervision

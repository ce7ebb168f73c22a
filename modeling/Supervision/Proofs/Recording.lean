import Supervision.Proofs.ExitHook
import Supervision.Proofs.HookHistory
import Supervision.Proofs.Manager
import Supervision.Coordinator

/-!
# Recording beside the world

To see what the supervisor does with its components, a record is kept beside the world and the components write to it.
`Act.Mirrors` says that a computation, seen through a view of its world, does what another one does on the world that is seen.
Batches, managers, machines, coordinators and the firing of a hook mirror what they do without the record, however their
components end; so what `Act.recording` answers of a run is true of the run itself (`Act.Mirrors.of_recording`).
-/

namespace Supervision

variable {σ σ' τ ρ α β κ : Type}

/-- A stage of which the world is seen through a view. -/
def Stage.seen (view : σ' → σ) (s : Stage σ') : Stage σ :=
  ⟨view s.world, s.journal⟩

namespace Act

/-- An ending of a computation, seen through a view of the world. -/
def seen (view : σ' → σ) : EStateM.Result Interruption (Stage σ') α → EStateM.Result Interruption (Stage σ) α
  | .ok a s => .ok a (s.seen view)
  | .error i s => .error i (s.seen view)

/-- Seen through a view of its world, a computation does what another one does on the world that is seen. -/
def Mirrors (view : σ' → σ) (y : Act σ' α) (x : Act σ α) : Prop :=
  ∀ s, x (s.seen view) = seen view (y s)

/-- Runs a computation with a record beside the world, and hands the record on with the answer. -/
def recording (record : ρ) (y : Act (ρ × σ) α) : Act σ (α × ρ) := fun s =>
  match y ⟨(record, s.world), s.journal⟩ with
  | .ok a t => .ok (a, t.world.1) ⟨t.world.2, t.journal⟩
  | .error i t => .error i ⟨t.world.2, t.journal⟩

/-- What is recorded of a computation that answers. -/
theorem recording_ok {record record' : ρ} {y : Act (ρ × σ) α} {s : Stage σ} {a : α} {w : σ} {journal : List Event}
    (h : y ⟨(record, s.world), s.journal⟩ = .ok a ⟨(record', w), journal⟩) :
    recording record y s = .ok (a, record') ⟨w, journal⟩ := by
  rw [recording, h]

variable {view : σ' → σ}

/-- A run that is recorded is the run without the record. -/
theorem Mirrors.of_recording {y : Act (ρ × σ) α} {x : Act σ α} (h : Mirrors Prod.snd y x) {record record' : ρ}
    {s t : Stage σ} {a : α} (hy : recording record y s = .ok (a, record') t) : x s = .ok a t := by
  have hx : x s = seen Prod.snd (y ⟨(record, s.world), s.journal⟩) := h ⟨(record, s.world), s.journal⟩
  rw [recording] at hy
  cases hrun : y ⟨(record, s.world), s.journal⟩ with
  | ok b u =>
    rw [hrun] at hx hy
    cases hy
    exact hx
  | error i u =>
    rw [hrun] at hy
    cases hy

/-- What is left is seen through the view as what the mirrored computation leaves. -/
theorem Mirrors.leaves {y : Act σ' α} {x : Act σ α} (h : Mirrors view y x) (s : Stage σ') :
    (y.leaves s).seen view = x.leaves (s.seen view) := by
  rw [Act.leaves, Act.leaves, h s]
  cases y s with
  | ok a t => rfl
  | error i t => rfl

/-- A computation returns if what it mirrors does. -/
theorem Mirrors.returns {y : Act σ' α} {x : Act σ α} (h : Mirrors view y x) (hx : x.Returns) : y.Returns := by
  intro s
  obtain ⟨a, t, ht⟩ := hx (s.seen view)
  rw [h s] at ht
  cases hy : y s with
  | ok b u => exact ⟨b, u, rfl⟩
  | error i u => rw [hy] at ht; cases ht

namespace Mirrors

theorem pure (a : α) : Mirrors view (Pure.pure a) (Pure.pure a) :=
  fun _ => rfl

theorem log (event : Event) : Mirrors view (Act.log event) (Act.log event) :=
  fun _ => rfl

/-- Sequences of mirrored computations are mirrored. -/
theorem bind {y : Act σ' α} {x : Act σ α} {g : α → Act σ' β} {f : α → Act σ β} (h : Mirrors view y x)
    (hf : ∀ a, Mirrors view (g a) (f a)) : Mirrors view (y >>= g) (x >>= f) := by
  intro s
  rw [bind_apply, bind_apply, h s]
  cases y s with
  | ok a t => exact hf a t
  | error i t => rfl

/-- Sequences that stop at errors are mirrored where their parts are. -/
theorem andThen {y : Act σ' (Reply α)} {x : Act σ (Reply α)} {g : α → Act σ' (Reply β)} {f : α → Act σ (Reply β)}
    (h : Mirrors view y x) (hf : ∀ a, Mirrors view (g a) (f a)) : Mirrors view (Act.andThen y g) (Act.andThen x f) := by
  refine h.bind fun reply => ?_
  cases reply with
  | ok a => exact hf a
  | error e => exact pure _

/-- Several computations one after the other are mirrored where each of them is. -/
theorem mapM {y : β → Act σ' α} {x : β → Act σ α} (h : ∀ b, Mirrors view (y b) (x b)) (bs : List β) :
    Mirrors view (bs.mapM y) (bs.mapM x) := by
  induction bs with
  | nil => exact pure _
  | cons b bs ih =>
    rw [List.mapM_cons, List.mapM_cons]
    exact (h b).bind fun _ => ih.bind fun _ => pure _

/-- To catch panics is mirrored where what may panic is. -/
theorem catchPanic {y : Act σ' α} {x : Act σ α} (h : Mirrors view y x) :
    Mirrors view (Act.catchPanic y) (Act.catchPanic x) := by
  intro s
  rw [Act.catchPanic, Act.catchPanic, h s]
  cases y s with
  | ok a t => rfl
  | error i t => cases i <;> rfl

end Mirrors

end Act

/-! ## Places -/

/-- A place that shows, through a view of the world, what is at another place. -/
structure Part.Shows (view : σ' → σ) (outer : Part σ' τ) (inner : Part σ τ) : Prop where
  get : ∀ w, outer.get w = inner.get (view w)
  set : ∀ t w, view (outer.set t w) = inner.set t (view w)

namespace Part

variable {view : σ' → σ} {outer : Part σ' τ} {inner : Part σ τ}

/-- A place of the world is a place of the world with a record beside it. -/
theorem shows_beside (part : Part σ τ) : Shows (Prod.snd : ρ × σ → σ) (snd.comp part) part :=
  ⟨fun _ => rfl, fun _ _ => rfl⟩

/-- A thing in hand is seen as it is. -/
theorem shows_fst (view : σ' → σ) : Shows (Prod.map id view) (fst : Part (τ × σ') τ) fst :=
  ⟨fun _ => rfl, fun _ _ => rfl⟩

/-- A place in a place that is shown is shown. -/
theorem Shows.comp {υ : Type} (h : Shows view outer inner) (part : Part τ υ) :
    Shows view (outer.comp part) (inner.comp part) where
  get w := by simp only [Part.comp, h.get]
  set u w := by simp only [Part.comp, h.get, h.set]

theorem Shows.read (h : Shows view outer inner) : Act.Mirrors view outer.read inner.read := by
  intro s
  rw [read_apply, read_apply, h.get]
  rfl

theorem Shows.modify (h : Shows view outer inner) (f : τ → τ) : Act.Mirrors view (outer.modify f) (inner.modify f) := by
  intro s
  simp only [modify_apply, Act.seen, Stage.seen, h.set, h.get]

/-- A computation that has a thing in hand is mirrored where what it does with the rest of the world is. -/
theorem focus_mirrors {y : Act σ' α} {x : Act σ α} (h : Act.Mirrors view y x) :
    Act.Mirrors (Prod.map id view) ((snd : Part (τ × σ') σ').focus y) (snd.focus x) := by
  intro s
  have hx : x ⟨view s.world.2, s.journal⟩ = Act.seen view (y ⟨s.world.2, s.journal⟩) := h ⟨s.world.2, s.journal⟩
  cases hy : y ⟨s.world.2, s.journal⟩ with
  | ok a t =>
    rw [hy] at hx
    rw [show (snd : Part (τ × σ') σ').focus y s = _ from focus_ok hy]
    exact focus_ok (s := s.seen (Prod.map id view)) (t := t.seen view) hx
  | error i t =>
    rw [hy] at hx
    rw [show (snd : Part (τ × σ') σ').focus y s = _ from focus_error hy]
    exact focus_error (s := s.seen (Prod.map id view)) (t := t.seen view) hx

/-- To take a thing in hand and to put it back is mirrored where the place is shown. -/
theorem Shows.hold (h : Shows view outer inner) {y : Act (τ × σ') α} {x : Act (τ × σ) α}
    (hm : Act.Mirrors (Prod.map id view) y x) : Act.Mirrors view (outer.hold y) (inner.hold x) := by
  intro s
  have hx : x ⟨(inner.get (view s.world), view s.world), s.journal⟩ =
      Act.seen (Prod.map id view) (y ⟨(outer.get s.world, s.world), s.journal⟩) := by
    rw [← h.get]
    exact hm ⟨(outer.get s.world, s.world), s.journal⟩
  cases hy : y ⟨(outer.get s.world, s.world), s.journal⟩ with
  | ok a t =>
    rw [hy] at hx
    have hheld : inner.hold x (s.seen view) = .ok a ⟨inner.set t.world.1 (view t.world.2), t.journal⟩ :=
      hold_ok (t := t.seen (Prod.map id view)) hx
    rw [hheld, hold_ok hy]
    simp only [Act.seen, Stage.seen, h.set]
  | error i t =>
    rw [hy] at hx
    have hheld : inner.hold x (s.seen view) = .error i ⟨inner.set t.world.1 (view t.world.2), t.journal⟩ :=
      hold_error (t := t.seen (Prod.map id view)) hx
    rw [hheld, hold_error hy]
    simp only [Act.seen, Stage.seen, h.set]

end Part

/-! ## Machines -/

/-- Hooks that do, seen through a view of the world, what other hooks do. -/
structure Hooks.Mirrors (view : σ' → σ) (outer : Hooks σ') (inner : Hooks σ) : Prop where
  name : outer.name = inner.name
  resettable : outer.resettable = inner.resettable
  invoke : ∀ phase, Act.Mirrors view (outer.invoke phase) (inner.invoke phase)
  failed : ∀ e, Act.Mirrors view (outer.failed e) (inner.failed e)

namespace Machine

variable {view : σ' → σ} {outer : Hooks σ'} {inner : Hooks σ}

/-- The machine in hand is seen as it is. -/
theorem current_mirrors : Act.Mirrors (Prod.map id view) (current : Act (Machine × σ') Machine) current :=
  (Part.shows_fst view).read

theorem step_mirrors (h : Hooks.Mirrors view outer inner) (trigger : Trigger) :
    Act.Mirrors (Prod.map id view) (step outer trigger) (step inner trigger) := by
  unfold step undefined
  rw [h.name, h.resettable]
  refine current_mirrors.bind fun m => ?_
  dsimp only
  cases transition m.state trigger inner.resettable with
  | none => exact .pure _
  | some next => exact (Act.Mirrors.log _).bind fun _ => ((Part.shows_fst view).modify _).bind fun _ => .pure _

theorem report_mirrors (h : Hooks.Mirrors view outer inner) (phase : Phase) :
    Act.Mirrors (Prod.map id view) (report outer phase) (report inner phase) := by
  unfold report
  rw [h.name]
  refine current_mirrors.bind fun m => ?_
  cases m.failure with
  | none => exact .pure _
  | some cause => exact Part.focus_mirrors (h.failed _)

theorem settle_mirrors (h : Hooks.Mirrors view outer inner) (phase : Phase) :
    Act.Mirrors (Prod.map id view) (settle outer phase) (settle inner phase) := by
  unfold settle
  rw [h.name]
  refine current_mirrors.bind fun m => ?_
  cases m.failure.isSome with
  | false =>
    exact (step_mirrors h _).andThen fun _ => current_mirrors.bind fun _ => (Act.Mirrors.log _).bind fun _ => .pure _
  | true => exact (step_mirrors h _).andThen fun _ => report_mirrors h _

theorem carryOut_mirrors (h : Hooks.Mirrors view outer inner) (r : Request) :
    Act.Mirrors (Prod.map id view) (carryOut outer r) (carryOut inner r) := by
  refine (step_mirrors h _).andThen fun _ => (Part.focus_mirrors (h.invoke r.phase)).bind fun outcome => ?_
  cases outcome with
  | ok _ => exact settle_mirrors h _
  | error cause => exact ((Part.shows_fst view).modify _).bind fun _ => settle_mirrors h _

/-- A request to a machine is mirrored where its hooks are. -/
theorem request_mirrors (h : Hooks.Mirrors view outer inner) (r : Request) :
    Act.Mirrors (Prod.map id view) (request outer r) (request inner r) := by
  unfold request undefined
  rw [h.name, h.resettable]
  refine current_mirrors.bind fun m => ?_
  cases transition m.state r.trigger inner.resettable with
  | none => exact .pure _
  | some next =>
    by_cases hm : m.state = .failed
    · simp only [hm, if_true]
      refine (Act.Mirrors.log _).bind fun _ => (Part.focus_mirrors (h.invoke .reset)).bind fun outcome => ?_
      cases outcome with
      | ok _ => exact ((Part.shows_fst view).modify _).bind fun _ => carryOut_mirrors h _
      | error cause => exact ((Part.shows_fst view).modify _).bind fun _ => report_mirrors h _
    · simp only [hm, if_false]
      exact carryOut_mirrors h r

end Machine

/-! ## Components and batches -/

/-- A component that does, seen through a view of the world, what another one does. -/
structure Lifecycle.Mirrors (view : σ' → σ) (outer : Lifecycle σ') (inner : Lifecycle σ) : Prop where
  name : outer.name = inner.name
  request : ∀ r, Act.Mirrors view (outer.request r) (inner.request r)

variable {view : σ' → σ}

/-- A state machine is mirrored where its hooks are and its seat is shown. -/
theorem Machine.component_mirrors {outerSeat : Part σ' Machine} {innerSeat : Part σ Machine} {outer : Hooks σ'}
    {inner : Hooks σ} (hseat : Part.Shows view outerSeat innerSeat) (h : Hooks.Mirrors view outer inner) :
    Lifecycle.Mirrors view (component outerSeat outer) (component innerSeat inner) :=
  ⟨h.name, fun r => hseat.hold (request_mirrors h r)⟩

namespace Batch

/-- To go through mapped components is to map the way. -/
theorem order_map {γ δ : Type} (operation : Request) (f : γ → δ) (members : List γ) :
    order operation (members.map f) = (order operation members).map f := by
  cases operation with
  | start => rfl
  | stop => exact List.map_reverse.symm

variable {outer : κ → Lifecycle σ'} {inner : κ → Lifecycle σ}

theorem attempt_mirrors (h : ∀ k, Lifecycle.Mirrors view (outer k) (inner k)) (operation : Request) (ks : List κ) :
    Act.Mirrors view (attempt operation (ks.map outer)) (attempt operation (ks.map inner)) := by
  induction ks with
  | nil => exact .pure _
  | cons k ks ih =>
    simp only [List.map_cons, attempt, (h k).name]
    refine ((h k).request operation).bind fun reply => ?_
    cases reply with
    | ok _ => exact ih
    | error e => exact (Act.Mirrors.log _).bind fun _ => ih.bind fun _ => .pure _

theorem finish_mirrors (outcome : Outcome) : Act.Mirrors view outcome.finish outcome.finish := by
  obtain ⟨operation, attempted, failures⟩ := outcome
  cases failures with
  | nil => exact (Act.Mirrors.log _).bind fun _ => .pure _
  | cons _ _ => exact (Act.Mirrors.log _).bind fun _ => .pure _

/-- A batch is mirrored where its members are. -/
theorem run_mirrors (h : ∀ k, Lifecycle.Mirrors view (outer k) (inner k)) (operation : Request) (ks : List κ) :
    Act.Mirrors view (run operation (ks.map outer)) (run operation (ks.map inner)) := by
  simp only [run_eq, List.length_map, order_map]
  exact (Act.Mirrors.log _).bind fun _ => (attempt_mirrors h operation _).bind fun _ => finish_mirrors _

end Batch

/-! ## Managers and coordinators -/

/-- A manager that keeps the registrations of another one, of components that do what those of the other one do. -/
structure Manager.Mirrors (view : σ' → σ) (outer : Manager σ' κ) (inner : Manager σ κ) : Prop where
  seat : Part.Shows view outer.seat inner.seat
  component : ∀ k, Lifecycle.Mirrors view (outer.component k) (inner.component k)

namespace Manager.Mirrors

variable {outer : Manager σ' κ} {inner : Manager σ κ}

theorem request (h : Manager.Mirrors view outer inner) (operation : Request) :
    Act.Mirrors view (outer.request operation) (inner.request operation) :=
  (h.seat.read.bind fun _ => .pure _).bind fun _ => Batch.run_mirrors h.component operation _

theorem quietly (h : Manager.Mirrors view outer inner) (operation : Request) :
    Act.Mirrors view (outer.quietly operation) (inner.quietly operation) := by
  refine (h.request operation).bind fun reply => ?_
  cases reply with
  | ok _ => exact .pure _
  | error e => exact (Act.Mirrors.log _).bind fun _ => .pure _

theorem toLifecycle (h : Manager.Mirrors view outer inner) :
    Lifecycle.Mirrors view outer.toLifecycle inner.toLifecycle :=
  ⟨rfl, h.request⟩

theorem clear (h : Manager.Mirrors view outer inner) : Act.Mirrors view outer.clear inner.clear :=
  (h.seat.read.bind fun _ => .pure _).bind fun _ => (Act.Mirrors.log _).bind fun _ => h.seat.modify _

variable [DecidableEq κ]

theorem contains (h : Manager.Mirrors view outer inner) (k : κ) :
    Act.Mirrors view (outer.contains k) (inner.contains k) :=
  h.seat.read.bind fun _ => .pure _

theorem add (h : Manager.Mirrors view outer inner) (k : κ) : Act.Mirrors view (outer.add k) (inner.add k) := by
  unfold Manager.add
  rw [(h.component k).name]
  refine (h.contains k).bind fun known => ?_
  cases known with
  | true => exact (Act.Mirrors.log _).bind fun _ => .pure _
  | false => exact (Act.Mirrors.log _).bind fun _ => (h.seat.modify _).bind fun _ => .pure _

theorem remove (h : Manager.Mirrors view outer inner) (k : κ) : Act.Mirrors view (outer.remove k) (inner.remove k) := by
  unfold Manager.remove
  rw [(h.component k).name]
  refine (h.contains k).bind fun known => ?_
  cases known with
  | true => exact (h.seat.modify _).bind fun _ => (Act.Mirrors.log _).bind fun _ => .pure _
  | false => exact .pure _

end Manager.Mirrors

/-- An exit hook in the world with a record beside it. -/
def ProcessHook.beside (hook : ProcessHook σ) : ProcessHook (ρ × σ) where
  install := Part.snd.focus hook.install
  uninstall := Part.snd.focus hook.uninstall
  state w := hook.state w.2
  consume := Part.snd.focus hook.consume

/-- What is done on the world alone mirrors itself. -/
theorem Act.mirrors_focus (x : Act σ α) : Act.Mirrors (Prod.snd : ρ × σ → σ) (Part.snd.focus x) x := by
  intro s
  cases hx : x (s.seen Prod.snd) with
  | ok a t => rw [show (Part.snd : Part (ρ × σ) σ).focus x s = _ from Part.focus_ok hx]; rfl
  | error i t => rw [show (Part.snd : Part (ρ × σ) σ).focus x s = _ from Part.focus_error hx]; rfl

/-- To write to the record is nothing to the world. -/
theorem Act.mirrors_note (note : ρ → ρ) : Act.Mirrors (Prod.snd : ρ × σ → σ) (Part.fst.modify note) (pure ()) :=
  fun _ => rfl

/-- What is done on the world alone, and noted when it has answered, is what is done. -/
theorem Act.mirrors_noted (x : Act σ α) (note : α → ρ → ρ) :
    Act.Mirrors (Prod.snd : ρ × σ → σ) (do let a ← Part.snd.focus x; Part.fst.modify (note a); return a) x := by
  have h := (mirrors_focus x).bind fun a => (mirrors_note (note a)).bind fun _ => Mirrors.pure a
  simpa using h

/-- Hooks that are recorded do with the world what they do without a record. -/
theorem Hooks.recorded_mirrors (hooks : Hooks σ) : Hooks.Mirrors Prod.snd hooks.recorded hooks where
  name := rfl
  resettable := rfl
  invoke phase := by
    have hcall : ∀ hook : Act σ (Except Cause Unit), Act.Mirrors Prod.snd (recordCall phase hook) hook :=
      fun hook => Act.mirrors_noted hook fun outcome history => history ++ [HookDeed.called phase outcome]
    cases phase <;> exact hcall _
  failed e := by
    have h := (Act.mirrors_note (· ++ [HookDeed.told e])).bind fun _ => Act.mirrors_focus (hooks.failed e)
    rwa [pure_bind] at h

namespace Act

/-- A computation of which the ending is noted, be it a panic, which then goes on to unwind. -/
def noting (note : Except String α → ρ → ρ) (y : Act (ρ × σ) α) : Act (ρ × σ) α := do
  let ending ← catchPanic y
  Part.fst.modify (note ending)
  match ending with
  | .ok a => return a
  | .error message => throw (.panic message)

variable {note : Except String α → ρ → ρ} {y : Act (ρ × σ) α} {s t : Stage (ρ × σ)}

theorem noting_ok {a : α} (h : y s = .ok a t) :
    noting note y s = .ok a ⟨(note (.ok a) t.world.1, t.world.2), t.journal⟩ := by
  rw [noting, bind_ok (by rw [catchPanic, h])]
  rfl

theorem noting_panic {message : String} (h : y s = .error (.panic message) t) :
    noting note y s = .error (.panic message) ⟨(note (.error message) t.world.1, t.world.2), t.journal⟩ := by
  rw [noting, bind_ok (by rw [catchPanic, h])]
  rfl

/-- What is noted of an ending, be it caught or not. -/
theorem catchPanic_noting {ending : Except String α} (h : catchPanic y s = .ok ending t) :
    catchPanic (noting note y) s = .ok ending ⟨(note ending t.world.1, t.world.2), t.journal⟩ := by
  cases ending with
  | ok a => rw [catchPanic, noting_ok (of_catchPanic_ok h)]
  | error message => rw [catchPanic, noting_panic (of_catchPanic_error h)]

/-- To note an ending is nothing to the world. -/
theorem Mirrors.noting {x : Act σ α} (h : Mirrors Prod.snd y x) : Mirrors Prod.snd (Act.noting note y) x := by
  intro s
  have hx := h s
  cases hy : y s with
  | ok a t => rw [noting_ok hy, hx, hy]; rfl
  | error i t =>
    cases i with
    | panic message => rw [noting_panic hy, hx, hy]; rfl
    | _ => rw [Act.noting, bind_error (by rw [Act.catchPanic, hy]), hx, hy]

end Act

/-- A coordinator with a record beside the world, of components that write to it. -/
def Coordinator.beside (c : Coordinator σ κ) (hook : ProcessHook σ) (component : κ → Lifecycle (ρ × σ)) :
    Coordinator (ρ × σ) κ where
  seat := Part.snd.comp c.seat
  hook := hook.beside.toExitHook
  component

namespace Coordinator

variable {c : Coordinator σ κ} {hook : ProcessHook σ} {component : κ → Lifecycle (ρ × σ)}

theorem manager_mirrors (h : ∀ k, Lifecycle.Mirrors Prod.snd (component k) (c.component k)) :
    Manager.Mirrors Prod.snd (c.beside hook component).manager c.manager :=
  ⟨(Part.shows_beside c.seat).comp _, h⟩

/-- An exit pass is mirrored where the stops of the components are. -/
theorem runExitAction_mirrors (h : ∀ k, Lifecycle.Mirrors Prod.snd (component k) (c.component k)) :
    Act.Mirrors Prod.snd (c.beside hook component).runExitAction c.runExitAction := by
  have hm : Manager.Mirrors Prod.snd (c.beside hook component).manager c.manager := manager_mirrors h
  unfold runExitAction
  refine (hm.seat.read.bind fun _ => Act.Mirrors.pure _).bind fun _ => (Act.Mirrors.log _).bind fun _ => ?_
  refine (hm.request .stop).bind fun reply => ?_
  cases reply with
  | ok _ => exact .pure _
  | error e => exact .log _

/-- A firing is mirrored where the stops of the components are. -/
theorem fire_mirrors (h : ∀ k, Lifecycle.Mirrors Prod.snd (component k) (c.component k)) :
    Act.Mirrors Prod.snd (hook.beside.fire (c.beside hook component).exitAction) (hook.fire c.exitAction) := by
  have hmark : Act.Mirrors (Prod.snd : ρ × σ → σ) ((c.beside hook component).mark false) (c.mark false) :=
    (Part.shows_beside c.seat).modify _
  have hworld : ∀ s : Stage (ρ × σ), hook.beside.state s.world = hook.state s.world.2 := fun _ => rfl
  intro s
  unfold ProcessHook.fire
  rw [Act.bind_ok (Act.world_apply _), Act.bind_ok (Act.world_apply _), hworld]
  by_cases harmed : (hook.state s.world.2).armed = true
  · rw [if_pos harmed, if_pos (show (hook.state (s.seen Prod.snd).world).armed = true from harmed)]
    exact ((Act.mirrors_focus hook.consume).bind fun _ => hmark.bind fun _ => runExitAction_mirrors h) s
  · rw [if_neg harmed, if_neg (show ¬(hook.state (s.seen Prod.snd).world).armed = true from harmed)]
    rfl

end Coordinator

end Supervision

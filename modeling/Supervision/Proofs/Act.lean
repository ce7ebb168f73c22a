import Supervision.Act

/-!
# Running computations

What a computation makes of a stage, primitive by primitive, and two ways to speak of all its endings at once. `Act.leaves` is
the stage that a computation leaves behind, be it by an answer or by an interruption; `Act.Leads` says how the worlds before
and after are related, and `Act.Keeps` that a property of the world outlives the computation.
-/

namespace Supervision

variable {σ τ α β : Type}

/-- A stage with events told on it. -/
def Stage.tell (s : Stage σ) (events : List Event) : Stage σ :=
  ⟨s.world, s.journal ++ events⟩

@[simp] theorem Stage.tell_world (s : Stage σ) (events : List Event) : (s.tell events).world = s.world := rfl

theorem Stage.tell_nil (s : Stage σ) : s.tell [] = s := by
  rw [tell, List.append_nil]

namespace Act

/-! ## Single steps -/

@[simp] theorem pure_apply (a : α) (s : Stage σ) : (pure a : Act σ α) s = .ok a s := rfl

theorem bind_apply (x : Act σ α) (f : α → Act σ β) (s : Stage σ) :
    (x >>= f) s = match x s with
      | .ok a s' => f a s'
      | .error i s' => .error i s' := by
  cases h : x s <;> simp [bind, EStateM.bind, h]

theorem map_apply (f : α → β) (x : Act σ α) (s : Stage σ) :
    (f <$> x) s = match x s with
      | .ok a s' => .ok (f a) s'
      | .error i s' => .error i s' := by
  cases h : x s <;> simp [Functor.map, EStateM.map, h]

/-- A computation goes on from where an answered one stopped. -/
theorem bind_ok {x : Act σ α} {f : α → Act σ β} {s s' : Stage σ} {a : α} (h : x s = .ok a s') :
    (x >>= f) s = f a s' := by
  rw [bind_apply, h]

/-- Nothing goes on behind an interruption. -/
theorem bind_error {x : Act σ α} {f : α → Act σ β} {s s' : Stage σ} {i : Interruption} (h : x s = .error i s') :
    (x >>= f) s = .error i s' := by
  rw [bind_apply, h]

/-- A sequence that answers has a first part that answers. -/
theorem of_bind_ok {x : Act σ α} {f : α → Act σ β} {s s' : Stage σ} {b : β} (h : (x >>= f) s = .ok b s') :
    ∃ a t, x s = .ok a t ∧ f a t = .ok b s' := by
  rw [bind_apply] at h
  cases hx : x s with
  | ok a t => exact ⟨a, t, rfl, by rw [hx] at h; exact h⟩
  | error i t => rw [hx] at h; cases h

@[simp] theorem log_apply (event : Event) (s : Stage σ) :
    log event s = .ok () ⟨s.world, s.journal ++ [event]⟩ := rfl

@[simp] theorem world_apply (s : Stage σ) : (world : Act σ σ) s = .ok s.world s := rfl

@[simp] theorem modifyWorld_apply (f : σ → σ) (s : Stage σ) :
    modifyWorld f s = .ok () ⟨f s.world, s.journal⟩ := rfl

/-- An event that is told under a condition, before the rest. -/
theorem ite_log_apply (c : Prop) [Decidable c] (event : Event) (x : Act σ α) (s : Stage σ) :
    (if c then (log event >>= fun _ => x) else x) s = x (s.tell (if c then [event] else [])) := by
  by_cases h : c
  · rw [if_pos h, if_pos h]; rfl
  · rw [if_neg h, if_neg h, Stage.tell_nil]

/-- The rest of a sequence that stops at errors runs behind a value. -/
theorem andThen_ok {x : Act σ (Reply α)} {f : α → Act σ (Reply β)} {s s' : Stage σ} {a : α}
    (h : x s = .ok (.ok a) s') : andThen x f s = f a s' := by
  rw [andThen, bind_ok h]

/-- An error is the answer of the whole sequence. -/
theorem andThen_error {x : Act σ (Reply α)} {f : α → Act σ (Reply β)} {s s' : Stage σ} {e : SupervisorError}
    (h : x s = .ok (.error e) s') : andThen x f s = .ok (.error e) s' := by
  rw [andThen, bind_ok h]
  rfl

/-- A sequence that stops at errors, and answers without one, has a first part that answers without one. -/
theorem of_andThen_pure {x : Act σ (Reply Unit)} {b b' : β} {s s' : Stage σ}
    (h : andThen x (fun _ => pure (.ok b)) s = .ok (.ok b') s') : x s = .ok (.ok ()) s' := by
  obtain ⟨reply, t, hx, h⟩ := of_bind_ok h
  cases reply with
  | ok _ => cases h; exact hx
  | error e => cases h

/-! ## Endings of any kind -/

/-- The stage that a computation leaves, whether it answers or is interrupted. -/
def leaves (x : Act σ α) (s : Stage σ) : Stage σ :=
  match x s with
  | .ok _ s' => s'
  | .error _ s' => s'

theorem leaves_of_ok {x : Act σ α} {s s' : Stage σ} {a : α} (h : x s = .ok a s') : x.leaves s = s' := by
  rw [leaves, h]

theorem leaves_of_error {x : Act σ α} {s s' : Stage σ} {i : Interruption} (h : x s = .error i s') :
    x.leaves s = s' := by
  rw [leaves, h]

/-- Computations that do the same leave the same. -/
theorem leaves_congr {x : Act σ α} {y : Act σ α} {s t : Stage σ} (h : x s = y t) : x.leaves s = y.leaves t := by
  rw [leaves, leaves, h]

/-- An interruption behind a computation changes nothing of what it leaves. -/
theorem leaves_bind_throw (x : Act σ α) (i : Interruption) (s : Stage σ) :
    (x >>= fun _ => (throw i : Act σ β)).leaves s = x.leaves s := by
  rw [leaves, leaves, bind_apply]
  cases x s <;> rfl

/-- To answer with something else behind a computation changes nothing of what it leaves. -/
theorem leaves_andThen_pure (x : Act σ (Reply α)) (b : β) (s : Stage σ) :
    (andThen x fun _ => pure (.ok b)).leaves s = x.leaves s := by
  rw [leaves, leaves, andThen, bind_apply]
  cases x s with
  | ok reply t => cases reply <;> rfl
  | error i t => rfl

/-- A computation answers wherever it is run: it is never interrupted. -/
def Returns (x : Act σ α) : Prop :=
  ∀ s, ∃ a s', x s = .ok a s'

theorem Returns.pure (a : α) : Returns (Pure.pure a : Act σ α) :=
  fun s => ⟨a, s, rfl⟩

/-- A sequence returns if its parts do. -/
theorem Returns.bind {x : Act σ α} {f : α → Act σ β} (hx : x.Returns) (hf : ∀ a, (f a).Returns) : (x >>= f).Returns := by
  intro s
  obtain ⟨a, t, ht⟩ := hx s
  rw [bind_ok ht]
  exact hf a t

/-- A sequence that stops at errors returns if its parts do. -/
theorem Returns.andThen {x : Act σ (Reply α)} {f : α → Act σ (Reply β)} (hx : x.Returns) (hf : ∀ a, (f a).Returns) :
    (Act.andThen x f).Returns := by
  refine hx.bind fun reply => ?_
  cases reply with
  | ok a => exact hf a
  | error e => exact .pure _

/-- A computation leads from every world to one that is related with it. -/
def Leads (R : σ → σ → Prop) (x : Act σ α) : Prop :=
  ∀ s, R s.world (x.leaves s).world

/-- A property of the world outlives a computation. -/
def Keeps (P : σ → Prop) (x : Act σ α) : Prop :=
  ∀ s, P s.world → P (x.leaves s).world

theorem Leads.keeps {R : σ → σ → Prop} {P : σ → Prop} {x : Act σ α} (h : x.Leads R)
    (hP : ∀ w w', R w w' → P w → P w') : x.Keeps P :=
  fun s hs => hP _ _ (h s) hs

theorem Keeps.of_ok {P : σ → Prop} {x : Act σ α} (h : x.Keeps P) {s t : Stage σ} {a : α} (hx : x s = .ok a t)
    (hs : P s.world) : P t.world :=
  leaves_of_ok hx ▸ h s hs

/-- What outlives both parts of a sequence outlives the sequence. -/
theorem Keeps.bind {P : σ → Prop} {x : Act σ α} {f : α → Act σ β} (hx : x.Keeps P) (hf : ∀ a, (f a).Keeps P) :
    (x >>= f).Keeps P := by
  intro s hs
  have h := hx s hs
  cases hr : x s with
  | ok a t =>
    rw [leaves_of_ok hr] at h
    have hb : (x >>= f).leaves s = (f a).leaves t := by rw [leaves, leaves, bind_ok hr]
    rw [hb]
    exact hf a t h
  | error i t =>
    rw [leaves_of_error hr] at h
    rw [leaves_of_error (bind_error hr)]
    exact h

theorem Keeps.pure {P : σ → Prop} (a : α) : Keeps P (Pure.pure a : Act σ α) :=
  fun _ hs => hs

theorem discard_ok {x : Act σ α} {s t : Stage σ} {a : α} (h : x s = .ok a t) : (discard x : Act σ Unit) s = .ok () t := by
  simp [discard, Functor.mapConst, EStateM.map, h]

theorem leaves_discard (x : Act σ α) (s : Stage σ) : (discard x : Act σ Unit).leaves s = x.leaves s := by
  cases h : x s <;> simp [leaves, discard, Functor.mapConst, EStateM.map, h]

theorem Keeps.log {P : σ → Prop} (event : Event) : Keeps P (Act.log event : Act σ Unit) :=
  fun _ hs => hs

/-! ## Panics that are caught -/

theorem of_catchPanic_ok {x : Act σ α} {s t : Stage σ} {a : α} (h : catchPanic x s = .ok (.ok a) t) : x s = .ok a t := by
  rw [catchPanic] at h
  split at h
  · cases h; assumption
  · cases h
  · cases h

theorem of_catchPanic_error {x : Act σ α} {s t : Stage σ} {message : String} (h : catchPanic x s = .ok (.error message) t) :
    x s = .error (.panic message) t := by
  rw [catchPanic] at h
  split at h
  · cases h
  · cases h; assumption
  · cases h

/-- A computation that never ends but by an answer or a panic answers or panics. -/
theorem Returns.answers_or_panics {x : Act σ α} (h : (catchPanic x).Returns) (s : Stage σ) :
    (∃ a t, x s = .ok a t) ∨ ∃ message t, x s = .error (.panic message) t := by
  obtain ⟨ending, t, ht⟩ := h s
  cases ending with
  | ok a => exact .inl ⟨a, t, of_catchPanic_ok ht⟩
  | error message => exact .inr ⟨message, t, of_catchPanic_error ht⟩

/-- What returns need not be caught. -/
theorem Returns.catchPanic {x : Act σ α} (h : x.Returns) : (Act.catchPanic x).Returns := by
  intro s
  obtain ⟨a, t, ht⟩ := h s
  exact ⟨.ok a, t, by rw [Act.catchPanic, ht]⟩

/-- A sequence ends by an answer or a panic if its parts do. -/
theorem Returns.catchPanic_bind {x : Act σ α} {f : α → Act σ β} (hx : (Act.catchPanic x).Returns)
    (hf : ∀ a, (Act.catchPanic (f a)).Returns) : (Act.catchPanic (x >>= f)).Returns := by
  intro s
  obtain ⟨a, t, ht⟩ | ⟨message, t, ht⟩ := hx.answers_or_panics s
  · obtain ⟨ending, u, hu⟩ := hf a t
    exact ⟨ending, u, by rw [Act.catchPanic, bind_ok ht]; exact hu⟩
  · exact ⟨.error message, t, by rw [Act.catchPanic, bind_error ht]⟩

/-- To catch a panic changes nothing of what is left. -/
theorem leaves_catchPanic (x : Act σ α) (s : Stage σ) : (catchPanic x).leaves s = x.leaves s := by
  rw [leaves, leaves, catchPanic]
  cases x s with
  | ok a t => rfl
  | error i t => cases i <;> rfl

theorem Keeps.catchPanic {P : σ → Prop} {x : Act σ α} (h : x.Keeps P) : (Act.catchPanic x).Keeps P := by
  intro s hs
  rw [leaves_catchPanic]
  exact h s hs

end Act

namespace Part

@[simp] theorem read_apply (part : Part σ τ) (s : Stage σ) : part.read s = .ok (part.get s.world) s := rfl

@[simp] theorem modify_apply (part : Part σ τ) (f : τ → τ) (s : Stage σ) :
    part.modify f s = .ok () ⟨part.set (f (part.get s.world)) s.world, s.journal⟩ := rfl

/-- A computation on a place answers what it answers there, and the place holds what it left. -/
theorem focus_ok {part : Part σ τ} {x : Act τ α} {s : Stage σ} {a : α} {t : Stage τ}
    (h : x ⟨part.get s.world, s.journal⟩ = .ok a t) :
    part.focus x s = .ok a ⟨part.set t.world s.world, t.journal⟩ := by
  rw [focus, h]

/-- A computation on a place is interrupted as it is there. -/
theorem focus_error {part : Part σ τ} {x : Act τ α} {s : Stage σ} {i : Interruption} {t : Stage τ}
    (h : x ⟨part.get s.world, s.journal⟩ = .error i t) :
    part.focus x s = .error i ⟨part.set t.world s.world, t.journal⟩ := by
  rw [focus, h]

/-- A computation on a place leaves what it leaves there. -/
theorem leaves_focus (part : Part σ τ) (x : Act τ α) (s : Stage σ) :
    (part.focus x).leaves s = ⟨part.set (x.leaves ⟨part.get s.world, s.journal⟩).world s.world,
      (x.leaves ⟨part.get s.world, s.journal⟩).journal⟩ := by
  rw [Act.leaves, focus, Act.leaves]
  cases x ⟨part.get s.world, s.journal⟩ with
  | ok a t => rfl
  | error i t => rfl

/-- A computation with a place in hand puts the place back when it answers. -/
theorem hold_ok {part : Part σ τ} {x : Act (τ × σ) α} {s : Stage σ} {a : α} {t : Stage (τ × σ)}
    (h : x ⟨(part.get s.world, s.world), s.journal⟩ = .ok a t) :
    part.hold x s = .ok a ⟨part.set t.world.1 t.world.2, t.journal⟩ := by
  rw [hold, h]

/-- A computation with a place in hand puts the place back when it is interrupted. -/
theorem hold_error {part : Part σ τ} {x : Act (τ × σ) α} {s : Stage σ} {i : Interruption} {t : Stage (τ × σ)}
    (h : x ⟨(part.get s.world, s.world), s.journal⟩ = .error i t) :
    part.hold x s = .error i ⟨part.set t.world.1 t.world.2, t.journal⟩ := by
  rw [hold, h]

/-- A panic is caught on either side of a computation with a place in hand. -/
theorem catchPanic_hold (part : Part σ τ) (x : Act (τ × σ) α) :
    Act.catchPanic (part.hold x) = part.hold (Act.catchPanic x) := by
  funext s
  simp only [Act.catchPanic, hold]
  cases x ⟨(part.get s.world, s.world), s.journal⟩ with
  | ok a t => rfl
  | error i t => cases i <;> rfl

end Part

end Supervision

import Supervision.Proofs.Recording

/-!
# Visits

A batch asks one component after the other. A `Visit` is one such request with its answer, and `Passes` are the worlds between
which visits lead, each from the world that the one before it left. `Batch.run_visits` says all there is to a batch whose members
answer: whom it visits, in which order, and that its answer is the verdict on the failed visits. `Lifecycle.recorded` puts the
visits of a component on record.
-/

namespace Supervision

variable {σ κ α ε : Type}

/-- A request that was sent to a component, and its answer. -/
structure Visit (α : Type) where
  whom : α
  request : Request
  reply : Reply Unit

namespace Visit

/-- The error with which a visit ended, if it ended with one. -/
def error? (v : Visit α) : Option SupervisorError :=
  match v.reply with
  | .ok _ => none
  | .error e => some e

/-- Whether a visit ended with an error. -/
def failed (v : Visit α) : Bool :=
  v.error?.isSome

/-- A visit leads from one world to another if the component answers so. -/
def Happens (component : α → Lifecycle σ) (v : Visit α) (w w' : σ) : Prop :=
  ∃ journal journal', (component v.whom).request v.request ⟨w, journal⟩ = .ok v.reply ⟨w', journal'⟩

theorem error?_eq_none {v : Visit α} : v.error? = none ↔ v.reply = .ok () := by
  obtain ⟨_, _, reply⟩ := v
  cases reply <;> simp [error?]

theorem error?_eq_some {v : Visit α} {e : SupervisorError} : v.error? = some e ↔ v.reply = .error e := by
  obtain ⟨_, _, reply⟩ := v
  cases reply <;> simp [error?]

theorem failed_eq_false {v : Visit α} : v.failed = false ↔ v.reply = .ok () := by
  rw [failed, Option.isSome_eq_false_iff, Option.isNone_iff_eq_none, error?_eq_none]

end Visit

/-- One step after another, each from the world that the one before it left. -/
inductive Passes (step : ε → σ → σ → Prop) : σ → List ε → σ → Prop where
  | nil (w : σ) : Passes step w [] w
  | cons {x : ε} {xs : List ε} {w w' w'' : σ} : step x w w' → Passes step w' xs w'' → Passes step w (x :: xs) w''

namespace Passes

variable {step : ε → σ → σ → Prop} {w w' w'' : σ} {xs ys : List ε}

theorem append (h : Passes step w xs w') (h' : Passes step w' ys w'') : Passes step w (xs ++ ys) w'' := by
  induction h with
  | nil => exact h'
  | cons hstep _ ih => exact .cons hstep (ih h')

/-- What every step keeps is kept. -/
theorem keeps {P : σ → Prop} (h : Passes step w xs w') (hstep : ∀ x ∈ xs, ∀ w w', step x w w' → P w → P w') (hw : P w) :
    P w' := by
  induction h with
  | nil => exact hw
  | cons hfirst _ ih =>
    exact ih (fun x hx => hstep x (List.mem_cons_of_mem _ hx)) (hstep _ List.mem_cons_self _ _ hfirst hw)

end Passes

namespace Batch

/-- The failures among visits, under the names of the components. -/
def failures (name : α → String) (visits : List (Visit α)) : List (String × SupervisorError) :=
  visits.filterMap fun v => v.error?.map (name v.whom, ·)

/-- The answer of a batch in which these components failed. -/
def verdict (operation : Request) : List (String × SupervisorError) → Reply Unit
  | [] => .ok ()
  | failures => .error (.batch operation failures)

/-- The event that closes a batch in which so many components were asked and these failed. -/
def conclusion (operation : Request) (attempted : Nat) : List (String × SupervisorError) → Event
  | [] => .batchSucceeded operation attempted
  | failures => .batchFailed (.batch operation failures) attempted

/-- The failure that an answer adds to those of a batch. -/
def failed (name : String) : Reply Unit → List (String × SupervisorError)
  | .ok _ => []
  | .error e => [(name, e)]

/-- What a batch tells of an answer when it has come. -/
def complaint (operation : Request) (name : String) : Reply Unit → List Event
  | .ok _ => []
  | .error e => [.batchFailure operation name e]

theorem failures_cons (name : α → String) (v : Visit α) (visits : List (Visit α)) :
    failures name (v :: visits) = failed (name v.whom) v.reply ++ failures name visits := by
  obtain ⟨_, _, reply⟩ := v
  cases reply <;> rfl

theorem failures_cons_ok (name : α → String) (a : α) (operation : Request) (visits : List (Visit α)) :
    failures name (⟨a, operation, .ok ()⟩ :: visits) = failures name visits := rfl

theorem failures_cons_error (name : α → String) (a : α) (operation : Request) (e : SupervisorError)
    (visits : List (Visit α)) :
    failures name (⟨a, operation, .error e⟩ :: visits) = (name a, e) :: failures name visits := rfl

/-- No failures are on the list exactly if every visit went well. -/
theorem failures_eq_nil {name : α → String} {visits : List (Visit α)} :
    failures name visits = [] ↔ ∀ v ∈ visits, v.reply = .ok () := by
  simp [failures, Visit.error?_eq_none]

/-- A batch goes well exactly if none of its members failed. -/
theorem verdict_eq_ok {operation : Request} {failures : List (String × SupervisorError)} :
    verdict operation failures = .ok () ↔ failures = [] := by
  cases failures <;> simp [verdict]

/-- A batch that does not go well answers with its failures, and there is one. -/
theorem verdict_eq_error {operation : Request} {failures : List (String × SupervisorError)} {e : SupervisorError}
    (h : verdict operation failures = .error e) : e = .batch operation failures := by
  cases failures with
  | nil => cases h
  | cons _ _ => exact (Except.error.inj h).symm

/-- A round complains of the answer of its first component, and goes on. -/
theorem attempt_cons_apply {operation : Request} {c : Lifecycle σ} {rest : List (Lifecycle σ)} {s t u : Stage σ}
    {reply : Reply Unit} {failures : List (String × SupervisorError)} (h : c.request operation s = .ok reply t)
    (hrest : attempt operation rest (t.tell (complaint operation c.name reply)) = .ok failures u) :
    attempt operation (c :: rest) s = .ok (failed c.name reply ++ failures) u := by
  rw [attempt, Act.bind_ok h]
  cases reply with
  | ok _ =>
    rw [complaint, Stage.tell_nil] at hrest
    exact hrest
  | error e => exact (Act.bind_ok (Act.log_apply _ _)).trans (Act.bind_ok hrest)

/-- A batch is closed with one event, and the answer of a batch is the verdict on its failures. -/
theorem finish_apply (outcome : Outcome) (s : Stage σ) :
    outcome.finish s = .ok (verdict outcome.operation outcome.failures)
      (s.tell [conclusion outcome.operation outcome.attempted outcome.failures]) := by
  obtain ⟨operation, attempted, failures⟩ := outcome
  cases failures <;> rfl

/-- A batch is its round, announced and closed. -/
theorem run_of_attempt {operation : Request} {members : List (Lifecycle σ)} {failures : List (String × SupervisorError)}
    {n : Nat} {s t : Stage σ} (hn : members.length = n)
    (h : attempt operation (order operation members) (s.tell [.batchStarted operation n]) = .ok failures t) :
    run operation members s = .ok (verdict operation failures) (t.tell [conclusion operation n failures]) := by
  rw [run_eq, hn, Act.bind_ok (Act.log_apply _ _)]
  exact (Act.bind_ok h).trans (finish_apply ⟨operation, n, failures⟩ t)

variable {I : σ → Prop} {step : Visit κ → σ → σ → Prop} {component : κ → Lifecycle σ} {operation : Request}

/-- A round answers where each of its components does, and what it makes of the world is put together from what each of them makes
of it. What a component needs when its turn comes may depend on which ones are still to come. -/
theorem attempt_steps {ready : List κ → σ → Prop} {R : List κ → σ → σ → Prop} (hnil : ∀ w, R [] w w)
    (hcons : ∀ k ks, ∀ s : Stage σ, ready (k :: ks) s.world → ∃ reply t, (component k).request operation s = .ok reply t ∧
      ready ks t.world ∧ ∀ w, R ks t.world w → R (k :: ks) s.world w)
    (ks : List κ) (s : Stage σ) (hs : ready ks s.world) :
    ∃ failures t, attempt operation (ks.map component) s = .ok failures t ∧ R ks s.world t.world := by
  induction ks generalizing s with
  | nil => exact ⟨[], s, rfl, hnil _⟩
  | cons k ks ih =>
    obtain ⟨reply, t, ht, hready, hR⟩ := hcons k ks s hs
    obtain ⟨failures, u, hu, hrest⟩ := ih (t.tell (complaint operation (component k).name reply)) hready
    exact ⟨_, u, attempt_cons_apply ht hu, hR _ hrest⟩

/-- A round of requests visits each component once, in the order given, and lists the failed visits. -/
theorem attempt_visits (ks : List κ)
    (h : ∀ k ∈ ks, ∀ s : Stage σ, I s.world → ∃ reply t, (component k).request operation s = .ok reply t ∧
      step ⟨k, operation, reply⟩ s.world t.world ∧ I t.world) (s : Stage σ) (hs : I s.world) :
    ∃ visits t, attempt operation (ks.map component) s = .ok (failures (fun k => (component k).name) visits) t ∧
      Passes step s.world visits t.world ∧ visits.map Visit.whom = ks ∧ (∀ v ∈ visits, v.request = operation) ∧ I t.world := by
  induction ks generalizing s with
  | nil => exact ⟨[], s, rfl, .nil _, rfl, nofun, hs⟩
  | cons k ks ih =>
    obtain ⟨reply, t, ht, hstep, hI⟩ := h k List.mem_cons_self s hs
    obtain ⟨visits, u, hu, hpasses, hto, hrequest, hI'⟩ := ih (fun k' hk' => h k' (List.mem_cons_of_mem _ hk'))
      (t.tell (complaint operation (component k).name reply)) hI
    refine ⟨⟨k, operation, reply⟩ :: visits, u, ?_, .cons hstep hpasses, by rw [List.map_cons, hto], ?_, hI'⟩
    · rw [failures_cons]
      exact attempt_cons_apply ht hu
    · exact List.forall_mem_cons.2 ⟨rfl, hrequest⟩

/-- A batch visits each of its members once, in the order of its operation, and answers with the verdict on the failed visits. -/
theorem run_visits (ks : List κ)
    (h : ∀ k ∈ ks, ∀ s : Stage σ, I s.world → ∃ reply t, (component k).request operation s = .ok reply t ∧
      step ⟨k, operation, reply⟩ s.world t.world ∧ I t.world) (s : Stage σ) (hs : I s.world) :
    ∃ visits t, run operation (ks.map component) s =
        .ok (verdict operation (failures (fun k => (component k).name) visits)) t ∧
      Passes step s.world visits t.world ∧ visits.map Visit.whom = order operation ks ∧
      (∀ v ∈ visits, v.request = operation) ∧ I t.world := by
  have hround := attempt_visits (order operation ks) (fun k hk => h k (mem_order.1 hk))
    (s.tell [.batchStarted operation (ks.map component).length]) hs
  obtain ⟨visits, t, ht, hpasses, hto, hrequest, hI⟩ := hround
  rw [← order_map] at ht
  exact ⟨visits, _, run_of_attempt rfl ht, hpasses, hto, hrequest, hI⟩

end Batch

/-- A manager of components that return returns. -/
theorem Manager.request_returns {manager : Manager σ κ} {operation : Request}
    (h : ∀ k, ((manager.component k).request operation).Returns) : (manager.request operation).Returns := by
  intro s
  have hvisit : ∀ k ∈ (manager.seat.get s.world).members, ∀ u : Stage σ, True → ∃ reply t,
      (manager.component k).request operation u = .ok reply t ∧
      Visit.Happens manager.component ⟨k, operation, reply⟩ u.world t.world ∧ True := by
    intro k _ u _
    obtain ⟨reply, t, ht⟩ := h k u
    exact ⟨reply, t, ht, ⟨_, _, ht⟩, trivial⟩
  obtain ⟨visits, t, ht, -⟩ := Batch.run_visits (I := fun _ => True) _ hvisit s trivial
  exact ⟨_, t, ht⟩

/-! ## Visits on record -/

namespace Lifecycle

/-- A component whose visits are recorded when it has answered. -/
def recorded (whom : α) (component : Lifecycle σ) : Lifecycle (List (Visit α) × σ) where
  name := component.name
  request r := do
    let reply ← Part.snd.focus (component.request r)
    Part.fst.modify (· ++ [⟨whom, r, reply⟩])
    return reply

theorem recorded_request {whom : α} {component : Lifecycle σ} {r : Request} {s : Stage (List (Visit α) × σ)}
    {reply : Reply Unit} {t : Stage σ} (h : component.request r ⟨s.world.2, s.journal⟩ = .ok reply t) :
    (component.recorded whom).request r s = .ok reply ⟨(s.world.1 ++ [⟨whom, r, reply⟩], t.world), t.journal⟩ :=
  Act.bind_ok (Part.focus_ok h)

/-- A component does with the world what it does without a record. -/
theorem recorded_mirrors (whom : α) (component : Lifecycle σ) : (component.recorded whom).Mirrors Prod.snd component where
  name := rfl
  request r := Act.mirrors_noted (component.request r) fun reply visits => visits ++ [Visit.mk whom r reply]

end Lifecycle

/-- A manager that has the visits to its components on record. -/
def Manager.recorded (manager : Manager σ κ) : Manager (List (Visit κ) × σ) κ where
  seat := Part.snd.comp manager.seat
  component k := (manager.component k).recorded k

theorem Manager.recorded_mirrors (manager : Manager σ κ) : manager.recorded.Mirrors Prod.snd manager where
  seat := Part.shows_beside manager.seat
  component k := Lifecycle.recorded_mirrors k (manager.component k)

/-- A visit that is put on record. -/
def Visit.Recorded (component : α → Lifecycle σ) (v : Visit α) (p p' : List (Visit α) × σ) : Prop :=
  p'.1 = p.1 ++ [v] ∧ v.Happens component p.2 p'.2

/-- What is on record behind visits are the visits. -/
theorem Passes.recorded {component : α → Lifecycle σ} {p p' : List (Visit α) × σ} {visits : List (Visit α)}
    (h : Passes (Visit.Recorded component) p visits p') :
    p'.1 = p.1 ++ visits ∧ Passes (Visit.Happens component) p.2 visits p'.2 := by
  induction h with
  | nil p => exact ⟨(List.append_nil _).symm, .nil _⟩
  | cons hstep _ ih =>
    obtain ⟨hrecord, hhappens⟩ := hstep
    refine ⟨?_, .cons hhappens ih.2⟩
    rw [ih.1, hrecord, List.append_assoc, List.singleton_append]

end Supervision

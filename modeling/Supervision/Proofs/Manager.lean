import Supervision.Manager
import Supervision.Proofs.Act
import Mathlib.Data.List.Basic

/-!
# Registrations and batches

What each operation of a manager answers and leaves, said once for every place of its registrations: `Manager.add_apply`,
`Manager.remove_apply` and `Manager.clear_apply`. A batch counts its components one by one and comes to the number of its members
(`Batch.run_eq`), and it keeps whatever each of its components keeps (`Batch.run_keeps`).
-/

namespace Supervision

variable {σ κ : Type}

namespace Registry

@[simp] theorem size_empty : (empty : Registry κ).size = 0 := rfl

variable [DecidableEq κ]

@[simp] theorem contains_iff (registry : Registry κ) (k : κ) : registry.contains k = true ↔ k ∈ registry.members := by
  simp [contains]

/-- A new identity joins behind all others. -/
theorem members_insert (registry : Registry κ) (k : κ) :
    (registry.insert k).members = if registry.contains k then registry.members else registry.members ++ [k] := by
  unfold insert
  by_cases h : k ∈ registry.members
  · simp [h]
  · simp [h]

/-- An identity that is registered is not registered again. -/
theorem insert_of_contains {registry : Registry κ} {k : κ} (h : registry.contains k = true) :
    registry.insert k = registry := by
  rw [contains_iff] at h
  rw [insert, dif_pos h]

/-- There is nothing to take out of a registry for an identity that is not registered. -/
theorem erase_of_not_contains {registry : Registry κ} {k : κ} (h : registry.contains k = false) :
    registry.erase k = registry := by
  have hk : k ∉ registry.members := fun hm => by rw [(contains_iff registry k).2 hm] at h; cases h
  obtain ⟨members, nodup⟩ := registry
  simp only [erase, mk.injEq]
  exact List.filter_eq_self.2 fun x hx => by simpa using fun e : x = k => hk (e ▸ hx)

/-- New identities join in their order. -/
theorem members_foldl_insert {registry : Registry κ} {ks : List κ} (h : (registry.members ++ ks).Nodup) :
    (ks.foldl insert registry).members = registry.members ++ ks := by
  induction ks generalizing registry with
  | nil => rw [List.foldl_nil, List.append_nil]
  | cons k ks ih =>
    have hk : k ∉ registry.members := fun hm => (List.nodup_append.1 h).2.2 k hm k List.mem_cons_self rfl
    have hmembers : (registry.insert k).members = registry.members ++ [k] := by simp [members_insert, contains, hk]
    rw [List.foldl_cons, ih (by simpa [hmembers] using h), hmembers, List.append_assoc, List.singleton_append]

/-- How a registration changes the size. -/
theorem size_insert (registry : Registry κ) (k : κ) :
    (registry.insert k).size = registry.size + (!registry.contains k).toNat := by
  unfold size
  rw [members_insert]
  cases h : registry.contains k <;> simp

/-- How taking out changes the size. -/
theorem size_erase (registry : Registry κ) (k : κ) :
    (registry.erase k).size + (registry.contains k).toNat = registry.size := by
  cases h : registry.contains k with
  | false => rw [erase_of_not_contains h]; rfl
  | true =>
    rw [contains_iff] at h
    have he : (registry.erase k).members = registry.members.erase k := by
      rw [registry.nodup.erase_eq_filter k]
      exact List.filter_congr fun x _ => by by_cases hx : x = k <;> simp [hx]
    have hpos := List.length_pos_of_mem h
    unfold size
    rw [he, List.length_erase_of_mem h]
    simp only [Bool.toNat_true]
    omega

/-- How many of several changes, made one after the other, have an effect. -/
def effects (f : Registry κ → κ → Registry κ) (done : Registry κ → κ → Bool) : Registry κ → List κ → Nat
  | _, [] => 0
  | registry, k :: ks => (done registry k).toNat + effects f done (f registry k) ks

/-- Several registrations make a registry larger by as many as were new. -/
theorem size_foldl_insert (registry : Registry κ) (ks : List κ) :
    (ks.foldl insert registry).size = registry.size + effects insert (fun r k => !r.contains k) registry ks := by
  induction ks generalizing registry with
  | nil => rfl
  | cons k ks ih =>
    rw [List.foldl_cons, ih, size_insert, effects]
    omega

/-- Taking several out makes a registry smaller by as many as were registered. -/
theorem size_foldl_erase (registry : Registry κ) (ks : List κ) :
    (ks.foldl erase registry).size + effects erase contains registry ks = registry.size := by
  induction ks generalizing registry with
  | nil => rfl
  | cons k ks ih =>
    have h1 := ih (registry.erase k)
    have h2 := registry.size_erase k
    rw [List.foldl_cons, effects]
    omega

end Registry

namespace Batch

/-! ## Turns -/

/-- Each member of a batch has a turn. -/
theorem order_perm {α : Type} (operation : Request) (members : List α) : (order operation members).Perm members := by
  cases operation with
  | start => exact .refl _
  | stop => exact List.reverse_perm _

/-- The members of a batch in the order of their turns. -/
theorem mem_order {α : Type} {operation : Request} {members : List α} {a : α} :
    a ∈ order operation members ↔ a ∈ members :=
  (order_perm operation members).mem_iff

/-- The members of a batch take their turns one by one. -/
theorem nodup_order {α : Type} (operation : Request) {members : List α} (h : members.Nodup) :
    (order operation members).Nodup :=
  (order_perm operation members).nodup_iff.2 h

/-! ## Rounds -/

/-- Asks components one after the other, whatever each of them answers. The answer lists those that failed. -/
def attempt (operation : Request) : List (Lifecycle σ) → Act σ (List (String × SupervisorError))
  | [] => return []
  | component :: rest => do
    match ← component.request operation with
    | .ok () => attempt operation rest
    | .error e =>
      Act.log (.batchFailure operation component.name e)
      return (component.name, e) :: (← attempt operation rest)

/-- What a batch has come to behind so many more components of which these failed. -/
def Outcome.after (outcome : Outcome) (asked : Nat) (failures : List (String × SupervisorError)) : Outcome :=
  ⟨outcome.operation, outcome.attempted + asked, outcome.failures ++ failures⟩

theorem Outcome.after_after (outcome : Outcome) (n m : Nat) (failures later : List (String × SupervisorError)) :
    (outcome.after n failures).after m later = outcome.after (n + m) (failures ++ later) := by
  simp only [after, Nat.add_assoc, List.append_assoc]

/-- A round counts every component that it asks, and keeps the failures of those that fail. -/
theorem Outcome.collect_eq (outcome : Outcome) (components : List (Lifecycle σ)) :
    outcome.collect components = outcome.after components.length <$> attempt outcome.operation components := by
  induction components generalizing outcome with
  | nil =>
    rw [collect, attempt, map_pure, after, List.append_nil]
    rfl
  | cons c rest ih =>
    -- what came of the first component is there when the rest is asked
    have hrest : ∀ failures : List (String × SupervisorError), (outcome.after 1 failures).collect rest =
        (fun later => outcome.after (c :: rest).length (failures ++ later)) <$> attempt outcome.operation rest := by
      intro failures
      have hafter : (outcome.after 1 failures).after rest.length =
          fun later => outcome.after (c :: rest).length (failures ++ later) := by
        funext later
        rw [after_after, List.length_cons, Nat.add_comm]
      rw [ih, hafter]
      rfl
    rw [collect, attempt, map_bind]
    refine bind_congr fun reply => ?_
    cases reply with
    | ok _ =>
      have h := hrest []
      rw [after, List.append_nil] at h
      simpa [record] using h
    | error e =>
      have h := hrest [(c.name, e)]
      rw [after] at h
      simp [record, h]

/-- The count with which a batch is closed is the number of its members. -/
theorem run_eq (operation : Request) (members : List (Lifecycle σ)) :
    run operation members = (do
      Act.log (.batchStarted operation members.length)
      let failures ← attempt operation (order operation members)
      Outcome.finish ⟨operation, members.length, failures⟩) := by
  rw [run, Outcome.collect_eq, (order_perm operation members).length_eq]
  simp only [bind_map_left, Outcome.after, Nat.zero_add, List.nil_append]

/-- A round goes on behind a component that did as it was asked. -/
theorem attempt_cons {operation : Request} {c : Lifecycle σ} {rest : List (Lifecycle σ)} {s u : Stage σ}
    (h : c.request operation s = .ok (.ok ()) u) : attempt operation (c :: rest) s = attempt operation rest u := by
  rw [attempt, Act.bind_ok h]

/-- In a round without failures every component did as it was asked. -/
theorem of_attempt_cons {operation : Request} {c : Lifecycle σ} {rest : List (Lifecycle σ)} {s t : Stage σ}
    (h : attempt operation (c :: rest) s = .ok [] t) :
    ∃ u, c.request operation s = .ok (.ok ()) u ∧ attempt operation rest u = .ok [] t := by
  rw [attempt] at h
  obtain ⟨reply, u, hu, h⟩ := Act.of_bind_ok h
  cases reply with
  | ok => exact ⟨u, hu, h⟩
  | error e =>
    obtain ⟨_, _, -, h⟩ := Act.of_bind_ok h
    obtain ⟨_, _, -, h⟩ := Act.of_bind_ok h
    cases h

/-- A round of requests keeps what each of them keeps. -/
theorem attempt_keeps {P : σ → Prop} {operation : Request} {members : List (Lifecycle σ)}
    (h : ∀ c ∈ members, (c.request operation).Keeps P) : (attempt operation members).Keeps P := by
  induction members with
  | nil => exact Act.Keeps.pure _
  | cons c rest ih =>
    have hrest := ih fun d hd => h d (List.mem_cons_of_mem _ hd)
    unfold attempt
    refine (h c List.mem_cons_self).bind fun reply => ?_
    cases reply with
    | ok => exact hrest
    | error e => exact (Act.Keeps.log _).bind fun _ => hrest.bind fun _ => Act.Keeps.pure _

/-- A batch whose round has no failures goes well. -/
theorem run_ok {operation : Request} {members : List (Lifecycle σ)} {s u : Stage σ}
    (h : attempt operation (order operation members) (s.tell [.batchStarted operation members.length]) = .ok [] u) :
    run operation members s = .ok (.ok ()) (u.tell [.batchSucceeded operation members.length]) := by
  rw [run_eq, Act.bind_ok (Act.log_apply _ _)]
  exact Act.bind_ok h

/-- A batch that goes well has a round without failures. -/
theorem of_run_ok {operation : Request} {members : List (Lifecycle σ)} {s t : Stage σ}
    (h : run operation members s = .ok (.ok ()) t) :
    ∃ u, attempt operation (order operation members) (s.tell [.batchStarted operation members.length]) = .ok [] u ∧
      t = u.tell [.batchSucceeded operation members.length] := by
  rw [run_eq, Act.bind_ok (Act.log_apply _ _)] at h
  obtain ⟨failures, u, hu, h⟩ := Act.of_bind_ok h
  cases failures with
  | nil => cases h; exact ⟨u, hu, rfl⟩
  | cons f rest =>
    obtain ⟨_, _, -, h⟩ := Act.of_bind_ok h
    cases h

/-- A batch keeps what the request keeps on each of its members. -/
theorem run_keeps {P : σ → Prop} {operation : Request} {members : List (Lifecycle σ)}
    (h : ∀ c ∈ members, (c.request operation).Keeps P) : (run operation members).Keeps P := by
  rw [run_eq]
  refine (Act.Keeps.log _).bind fun _ => (attempt_keeps fun c hc => h c (mem_order.1 hc)).bind fun failures => ?_
  unfold Outcome.finish
  cases failures with
  | nil => exact (Act.Keeps.log _).bind fun _ => Act.Keeps.pure _
  | cons f rest => exact (Act.Keeps.log _).bind fun _ => Act.Keeps.pure _

end Batch

namespace Manager

/-- A request to a manager is a batch over what is registered when it comes. -/
theorem request_apply (manager : Manager σ κ) (operation : Request) (s : Stage σ) :
    manager.request operation s = Batch.run operation ((manager.seat.get s.world).members.map manager.component) s := rfl

theorem request_of_members (manager : Manager σ κ) (operation : Request) {s : Stage σ} {ks : List κ}
    (h : (manager.seat.get s.world).members = ks) :
    manager.request operation s = Batch.run operation (ks.map manager.component) s := by
  rw [request_apply, h]

/-- A request to a manager keeps what it keeps on each component. -/
theorem request_keeps {P : σ → Prop} {manager : Manager σ κ} {operation : Request}
    (h : ∀ k, ((manager.component k).request operation).Keeps P) : (manager.request operation).Keeps P := by
  intro s hs
  rw [Act.leaves_congr (request_apply manager operation s)]
  refine Batch.run_keeps (fun c hc => ?_) s hs
  obtain ⟨k, -, rfl⟩ := List.mem_map.1 hc
  exact h k

/-- A request that is carried out quietly ends as the request does, but for its answer and for the journal. -/
theorem quietly_apply {manager : Manager σ κ} {operation : Request} {s t : Stage σ} {reply : Reply Unit}
    (h : manager.request operation s = .ok reply t) :
    ∃ well events, manager.quietly operation s = .ok well (t.tell events) := by
  rw [quietly, Act.bind_ok h]
  cases reply with
  | ok _ => exact ⟨true, [], by rw [Stage.tell_nil]; rfl⟩
  | error e => exact ⟨false, [.batchIgnored operation e], rfl⟩

/-- Dropping every registration. -/
theorem clear_apply (manager : Manager σ κ) (s : Stage σ) :
    manager.clear s = .ok () ⟨manager.seat.set .empty s.world,
      s.journal ++ [.cleared (manager.seat.get s.world).size]⟩ := rfl

variable [DecidableEq κ]

/-- Registering answers whether the component was new, and registers it in any case. -/
theorem add_apply (manager : Manager σ κ) (hl : manager.seat.Lawful) (k : κ) (s : Stage σ) :
    ∃ journal, manager.add k s = .ok (!(manager.seat.get s.world).contains k)
      ⟨manager.seat.set ((manager.seat.get s.world).insert k) s.world, journal⟩ := by
  cases h : (manager.seat.get s.world).contains k with
  | true =>
    rw [Registry.insert_of_contains h, hl.set_get]
    exact ⟨_, by simp [add, contains, Act.bind_apply, Act.map_apply, h]; rfl⟩
  | false => exact ⟨_, by simp [add, contains, Act.bind_apply, Act.map_apply, h]; rfl⟩

theorem add_returns (manager : Manager σ κ) (hl : manager.seat.Lawful) (k : κ) : (manager.add k).Returns := by
  intro s
  obtain ⟨journal, h⟩ := manager.add_apply hl k s
  exact ⟨_, _, h⟩

/-- Taking out answers whether the component was registered, and it is not registered afterwards. -/
theorem remove_apply (manager : Manager σ κ) (hl : manager.seat.Lawful) (k : κ) (s : Stage σ) :
    ∃ journal, manager.remove k s = .ok ((manager.seat.get s.world).contains k)
      ⟨manager.seat.set ((manager.seat.get s.world).erase k) s.world, journal⟩ := by
  cases h : (manager.seat.get s.world).contains k with
  | true => exact ⟨_, by simp [remove, contains, Act.bind_apply, Act.map_apply, h]; rfl⟩
  | false =>
    rw [Registry.erase_of_not_contains h, hl.set_get]
    exact ⟨_, by simp [remove, contains, Act.bind_apply, Act.map_apply, h]; rfl⟩

theorem remove_returns (manager : Manager σ κ) (hl : manager.seat.Lawful) (k : κ) : (manager.remove k).Returns := by
  intro s
  obtain ⟨journal, h⟩ := manager.remove_apply hl k s
  exact ⟨_, _, h⟩

end Manager

end Supervision

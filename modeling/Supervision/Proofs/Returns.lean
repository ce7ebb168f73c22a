import Supervision.Proofs.Flattening

/-!
# Calls on record when they return

To say what a tree of managers logs, and when, every call within it is put on record at its return: a `Return` holds which
component was asked, at which place, what it answered, and all that had been told by then. `Tree.observed` keeps such a record
beside the world, and does with the world what the tree does without it. The calls are a `Walk` through the tree: a component
first asks its own components, then closes the call by what they answered (`Return.Closes`), and whoever asked it complains of its
failure (`Return.entry`) before the next one is asked. `Tree.request_observed` says that every request is such a walk; what holds
of walks is shown by induction on them.
-/

namespace Supervision

variable {σ ρ κ α : Type}

/-- A call that has returned: the component that was asked and its place, that is, the identities that lead to it; the answer; and
everything that had been told when it came. -/
structure Return (σ κ α : Type) where
  place : List κ
  whom : Tree σ κ α
  reply : Reply Unit
  journal : List Event

/-- The events of the level of errors. -/
def Event.errors (events : List Event) : List Event :=
  events.filter fun event => event.level = .error

/-- A computation tells no errors of its own. -/
def Act.TellsNoErrors (x : Act σ α) : Prop :=
  ∀ s, ∃ told, (x.leaves s).journal = s.journal ++ told ∧ Event.errors told = []

namespace Tree

/-- The components that a tree asks when it is asked, one after the other, with their places. A leaf asks none. -/
def asked (operation : Request) (w : σ) (place : List κ) : Tree σ κ α → List (List κ × Tree σ κ α)
  | .leaf _ => []
  | .manager seat children => (Batch.order operation (seat.get w).members).map fun k => (place ++ [k], children k)

/-- What a tree tells before it asks them. -/
def opening (operation : Request) (w : σ) : Tree σ κ α → List Event
  | .leaf _ => []
  | .manager seat _ => [.batchStarted operation (seat.get w).members.length]

/-- All calls within a tree in the order in which they return: a manager returns behind its components. -/
def calls (operation : Request) (w : σ) (place : List κ) : Tree σ κ α → List (List κ × Tree σ κ α)
  | .leaf a => [(place, .leaf a)]
  | .manager seat children =>
    ((Batch.order operation (seat.get w).members).flatMap fun k => (children k).calls operation w (place ++ [k])) ++
      [(place, .manager seat children)]

/-- The calls within a tree are those within the components that it asks, and its own. -/
theorem calls_eq (operation : Request) (w : σ) (place : List κ) (tree : Tree σ κ α) :
    tree.calls operation w place =
      ((tree.asked operation w place).flatMap fun x => x.2.calls operation w x.1) ++ [(place, tree)] := by
  cases tree with
  | leaf a => rfl
  | manager seat children => rw [asked, List.flatMap_map, calls]

/-- The places of the components that are asked lie one identity further. -/
theorem prefix_of_mem_asked {operation : Request} {w : σ} {place : List κ} {tree : Tree σ κ α} {x : List κ × Tree σ κ α}
    (h : x ∈ tree.asked operation w place) : place <+: x.1 ∧ x.1.length = place.length + 1 := by
  cases tree with
  | leaf a => cases h
  | manager seat children =>
    obtain ⟨k, -, rfl⟩ := List.mem_map.1 h
    exact ⟨List.prefix_append _ _, by simp⟩

theorem ne_nil_of_mem_asked {operation : Request} {w : σ} {place : List κ} {tree : Tree σ κ α} {x : List κ × Tree σ κ α}
    (h : x ∈ tree.asked operation w place) : x.1 ≠ [] := by
  intro hnil
  have hlength := (prefix_of_mem_asked h).2
  rw [hnil] at hlength
  cases hlength

/-- No place is asked twice. -/
theorem nodup_asked (operation : Request) (w : σ) (place : List κ) (tree : Tree σ κ α) :
    ((tree.asked operation w place).map Prod.fst).Nodup := by
  cases tree with
  | leaf a => exact List.nodup_nil
  | manager seat children =>
    rw [asked, List.map_map]
    refine (Batch.nodup_order operation (seat.get w).nodup).map fun k k' h => ?_
    simpa using h

end Tree

namespace Return

/-- The failure that a call adds to those of the batch it belongs to. -/
def failures (leaf : α → String) (r : Return σ κ α) : List (String × SupervisorError) :=
  Batch.failed (r.whom.name leaf) r.reply

/-- What the manager of a component tells of a call to it. Nobody tells anything of the outermost call. -/
def entry (leaf : α → String) (operation : Request) (r : Return σ κ α) : List Event :=
  match r.place with
  | [] => []
  | _ :: _ => Batch.complaint operation (r.whom.name leaf) r.reply

theorem entry_of_place {leaf : α → String} {operation : Request} {r : Return σ κ α} (h : r.place ≠ []) :
    r.entry leaf operation = Batch.complaint operation (r.whom.name leaf) r.reply := by
  rw [entry]
  split
  · contradiction
  · rfl

/-- How a call ends, with what had been told until all components that it asked have returned. A leaf asks none, and tells no
errors. A manager answers with the verdict on its components, and closes its batch. -/
def Closes (leaf : α → String) (operation : Request) (w : σ) (r : Return σ κ α) (asked : List (Return σ κ α))
    (journal : List Event) : Prop :=
  match r.whom with
  | .leaf _ => ∃ told, r.journal = journal ++ told ∧ Event.errors told = []
  | .manager seat _ =>
    r.reply = Batch.verdict operation (asked.flatMap (failures leaf)) ∧
      r.journal =
        journal ++ [Batch.conclusion operation (seat.get w).members.length (asked.flatMap (failures leaf))]

end Return

/-- Calls to components one after the other, each at its place: what had been told before and behind them, all calls that returned
meanwhile, and among these the calls themselves. Before a call returns, the component walks through those that it asks. -/
inductive Walk (leaf : α → String) (operation : Request) (w : σ) :
    List (List κ × Tree σ κ α) → List Event → List (Return σ κ α) → List (Return σ κ α) → List Event → Prop where
  | nil (journal : List Event) : Walk leaf operation w [] journal [] [] journal
  | cons {r : Return σ κ α} {todo : List (List κ × Tree σ κ α)} {within asked returns answers : List (Return σ κ α)}
      {journal body journal' : List Event} :
      Walk leaf operation w (r.whom.asked operation w r.place) (journal ++ r.whom.opening operation w) within asked body →
      r.Closes leaf operation w asked body →
      Walk leaf operation w todo (r.journal ++ r.entry leaf operation) returns answers journal' →
      Walk leaf operation w ((r.place, r.whom) :: todo) journal (within ++ r :: returns) (r :: answers) journal'

namespace Lifecycle

/-- A component in the world with a record beside it. -/
def beside (component : Lifecycle σ) : Lifecycle (ρ × σ) where
  name := component.name
  request r := Part.snd.focus (component.request r)

/-- A component of which each return is put on record. -/
def returning (place : List κ) (whom : Tree σ κ α) (component : Lifecycle (List (Return σ κ α) × σ)) :
    Lifecycle (List (Return σ κ α) × σ) where
  name := component.name
  request r := do
    let reply ← component.request r
    let stage ← get
    Part.fst.modify (· ++ [⟨place, whom, reply, stage.journal⟩])
    return reply

theorem returning_request {place : List κ} {whom : Tree σ κ α} {component : Lifecycle (List (Return σ κ α) × σ)}
    {r : Request} {s t : Stage (List (Return σ κ α) × σ)} {reply : Reply Unit} (h : component.request r s = .ok reply t) :
    (component.returning place whom).request r s =
      .ok reply ⟨(t.world.1 ++ [⟨place, whom, reply, t.journal⟩], t.world.2), t.journal⟩ :=
  Act.bind_ok h

theorem beside_mirrors (component : Lifecycle σ) : (component.beside : Lifecycle (ρ × σ)).Mirrors Prod.snd component :=
  ⟨rfl, fun r => Act.mirrors_focus (component.request r)⟩

/-- To put returns on record changes nothing of what is done with the world. -/
theorem Mirrors.returning {place : List κ} {whom : Tree σ κ α} {outer : Lifecycle (List (Return σ κ α) × σ)}
    {inner : Lifecycle σ} (h : outer.Mirrors Prod.snd inner) : (outer.returning place whom).Mirrors Prod.snd inner where
  name := h.name
  request r := by
    have hnote : ∀ reply : Reply Unit, Act.Mirrors (Prod.snd : List (Return σ κ α) × σ → σ) (do
        let stage ← get
        Part.fst.modify (· ++ [⟨place, whom, reply, stage.journal⟩])
        return reply) (pure reply) := fun _ _ => rfl
    have hrequest := (h.request r).bind hnote
    rw [bind_pure] at hrequest
    exact hrequest

end Lifecycle

namespace Tree

/-- A tree of managers with all calls within it, and the call to it, put on record when they return. -/
def observed (leaf : α → Lifecycle σ) (place : List κ) : Tree σ κ α → Lifecycle (List (Return σ κ α) × σ)
  | .leaf a => (leaf a).beside.returning place (.leaf a)
  | .manager seat children =>
    (Manager.mk (Part.snd.comp seat) fun k =>
      (children k).observed leaf (place ++ [k])).toLifecycle.returning place (.manager seat children)

theorem observed_name (leaf : α → Lifecycle σ) (place : List κ) (tree : Tree σ κ α) :
    (tree.observed leaf place).name = tree.name fun a => (leaf a).name := by
  cases tree <;> rfl

/-- A tree does with the world what it does without a record. -/
theorem observed_mirrors (leaf : α → Lifecycle σ) (place : List κ) (tree : Tree σ κ α) :
    (tree.observed leaf place).Mirrors Prod.snd (tree.component leaf) := by
  induction tree generalizing place with
  | leaf a => exact (Lifecycle.beside_mirrors (leaf a)).returning
  | manager seat children ih =>
    have hmanager : Manager.Mirrors Prod.snd
        (Manager.mk (Part.snd.comp seat) fun k => (children k).observed leaf (place ++ [k]))
        (Manager.mk seat fun k => (children k).component leaf) := ⟨Part.shows_beside seat, fun k => ih k _⟩
    exact hmanager.toLifecycle.returning

variable {I : σ → Prop} {leaf : α → Lifecycle σ} {operation : Request} {w : σ}

/-- A tree returns behind a walk through the components that it asks. -/
def Observed (I : σ → Prop) (leaf : α → Lifecycle σ) (operation : Request) (w : σ) (place : List κ) (tree : Tree σ κ α)
    (s : Stage (List (Return σ κ α) × σ)) : Prop :=
  ∃ (r : Return σ κ α) (within asked : List (Return σ κ α)) (body : List Event) (v : σ),
    (tree.observed leaf place).request operation s = .ok r.reply ⟨(s.world.1 ++ (within ++ [r]), v), r.journal⟩ ∧
    (r.place, r.whom) = (place, tree) ∧ I v ∧
    Walk (fun a => (leaf a).name) operation w (tree.asked operation w place)
      (s.journal ++ tree.opening operation w) within asked body ∧
    r.Closes (fun a => (leaf a).name) operation w asked body

/-- Components that are asked one after the other are walked through. -/
theorem attempt_observed {children : κ → Tree σ κ α} {place : List κ} (ks : List κ)
    (h : ∀ k ∈ ks, ∀ s : Stage (List (Return σ κ α) × σ), I s.world.2 →
      (children k).Observed I leaf operation w (place ++ [k]) s)
    (s : Stage (List (Return σ κ α) × σ)) (hs : I s.world.2) :
    ∃ returns answers journal v,
      Batch.attempt operation (ks.map fun k => (children k).observed leaf (place ++ [k])) s =
        .ok (answers.flatMap (Return.failures fun a => (leaf a).name)) ⟨(s.world.1 ++ returns, v), journal⟩ ∧ I v ∧
      Walk (fun a => (leaf a).name) operation w (ks.map fun k => (place ++ [k], children k)) s.journal
        returns answers journal := by
  induction ks generalizing s with
  | nil => exact ⟨[], [], s.journal, s.world.2, by rw [List.append_nil]; rfl, hs, .nil _⟩
  | cons k ks ih =>
    obtain ⟨r, within, asked, body, v, hr, heq, hv, hwithin, hcloses⟩ := h k List.mem_cons_self s hs
    obtain ⟨hplace, hwhom⟩ := Prod.mk.inj heq
    have hne : r.place ≠ [] := by simp [hplace]
    have hcomplaint : r.entry (fun a => (leaf a).name) operation =
        Batch.complaint operation ((children k).observed leaf (place ++ [k])).name r.reply := by
      rw [Return.entry_of_place hne, observed_name, hwhom]
    obtain ⟨returns, answers, journal, v', hrest, hv', hwalk⟩ := ih (fun k' hk' => h k' (List.mem_cons_of_mem _ hk'))
      ⟨(s.world.1 ++ (within ++ [r]), v), r.journal ++ r.entry (fun a => (leaf a).name) operation⟩ hv
    refine ⟨within ++ r :: returns, r :: answers, journal, v', ?_, hv', ?_⟩
    · have hattempt := Batch.attempt_cons_apply hr (hcomplaint ▸ hrest)
      rw [List.map_cons, hattempt, List.flatMap_cons, Return.failures, observed_name, hwhom]
      simp
    · rw [List.map_cons, ← heq]
      rw [← hwhom, ← hplace] at hwithin
      exact .cons hwithin hcloses hwalk

/-- A tree whose leaves answer, tell no errors and leave its registrations alone returns behind a walk. -/
theorem request_observed (tree : Tree σ κ α) (place : List κ) (hI : ∀ u, I u → tree.Unmoved w u)
    (hleaf : ∀ a ∈ tree.leaves w, ∀ s : Stage σ, I s.world → ∃ reply t told, (leaf a).request operation s = .ok reply t ∧
      t.journal = s.journal ++ told ∧ Event.errors told = [] ∧ I t.world)
    (s : Stage (List (Return σ κ α) × σ)) (hs : I s.world.2) : tree.Observed I leaf operation w place s := by
  induction tree generalizing place s with
  | leaf a =>
    obtain ⟨reply, t, told, ht, hjournal, htold, hIt⟩ := hleaf a (List.mem_singleton.2 rfl) ⟨s.world.2, s.journal⟩ hs
    have hbeside : (leaf a).beside.request operation s = .ok reply ⟨(s.world.1, t.world), t.journal⟩ := Part.focus_ok ht
    refine ⟨⟨place, .leaf a, reply, t.journal⟩, [], [], s.journal, t.world, ?_, rfl, hIt, ?_, ⟨told, hjournal, htold⟩⟩
    · exact Lifecycle.returning_request hbeside
    · rw [opening, List.append_nil]
      exact .nil _
  | manager seat children ih =>
    have hmembers : (seat.get s.world.2).members = (seat.get w).members := by rw [(hI s.world.2 hs).1]
    -- by induction, the batch of the manager is a walk through its components
    obtain ⟨returns, answers, journal, v, hattempt, hv, hwalk⟩ := attempt_observed
      (Batch.order operation (seat.get w).members)
      (fun k hk u hu => ih k (place ++ [k]) (fun u hu => (hI u hu).2 k (Batch.mem_order.1 hk))
        (fun a ha => hleaf a (mem_leaves_manager (Batch.mem_order.1 hk) ha)) u hu)
      (s.tell [.batchStarted operation (seat.get w).members.length]) hs
    rw [← Batch.order_map] at hattempt
    have hrequest : (Manager.mk (Part.snd.comp seat) fun k =>
        (children k).observed leaf (place ++ [k])).toLifecycle.request operation s = _ :=
      (Manager.request_of_members _ operation hmembers).trans (Batch.run_of_attempt (List.length_map _) hattempt)
    refine ⟨⟨place, .manager seat children, _, _⟩, returns, answers, journal, v, ?_, rfl, hv, hwalk, rfl, rfl⟩
    rw [← List.append_assoc]
    exact Lifecycle.returning_request hrequest

end Tree

namespace Return

/-- A call to a component of the manager at a place. -/
def Beneath (place : List κ) (r : Return σ κ α) : Prop :=
  ∃ k, r.place = place ++ [k]

theorem beneath_iff {place : List κ} {r : Return σ κ α} :
    r.Beneath place ↔ place <+: r.place ∧ r.place.length = place.length + 1 := by
  constructor
  · rintro ⟨k, hk⟩
    rw [hk]
    exact ⟨List.prefix_append _ _, by simp⟩
  · rintro ⟨⟨rest, hrest⟩, hlength⟩
    rw [← hrest, List.length_append, Nat.add_right_inj] at hlength
    obtain ⟨k, rfl⟩ := List.length_eq_one_iff.1 hlength
    exact ⟨k, hrest.symm⟩

variable [DecidableEq κ]

instance (place : List κ) (r : Return σ κ α) : Decidable (r.Beneath place) :=
  decidable_of_iff _ beneath_iff.symm

/-- The calls to the components of the manager at a place. -/
def beneath (place : List κ) (returns : List (Return σ κ α)) : List (Return σ κ α) :=
  returns.filter fun r => r.Beneath place

theorem beneath_append (place : List κ) (returns returns' : List (Return σ κ α)) :
    beneath place (returns ++ returns') = beneath place returns ++ beneath place returns' :=
  List.filter_append ..

theorem beneath_eq_nil {place : List κ} {returns : List (Return σ κ α)} (h : ∀ r ∈ returns, ¬r.Beneath place) :
    beneath place returns = [] := by
  simpa [beneath] using h

/-- A call lies beneath no place as deep as its own. -/
theorem beneath_singleton {place : List κ} {r : Return σ κ α} (h : r.place.length ≤ place.length) :
    beneath place [r] = [] := by
  refine beneath_eq_nil fun c hc hbeneath => ?_
  obtain rfl := List.mem_singleton.1 hc
  have hlength := (beneath_iff.1 hbeneath).2
  omega

end Return

namespace Walk

variable {leaf : α → String} {operation : Request} {w : σ} {todo : List (List κ × Tree σ κ α)} {journal journal' : List Event}
  {returns answers : List (Return σ κ α)} {r : Return σ κ α}

/-- A walk asks its components one after the other. -/
theorem answers_eq (h : Walk leaf operation w todo journal returns answers journal') :
    answers.map (fun r => (r.place, r.whom)) = todo := by
  induction h with
  | nil => rfl
  | cons _ _ _ _ ih => rw [List.map_cons, ih]

/-- All calls of a walk return, in the order of the traversal. -/
theorem returns_eq (h : Walk leaf operation w todo journal returns answers journal') :
    returns.map (fun r => (r.place, r.whom)) = todo.flatMap fun x => x.2.calls operation w x.1 := by
  induction h with
  | nil => rfl
  | cons _ _ _ ihwithin ih =>
    rw [List.map_append, List.map_cons, ihwithin, ih, List.flatMap_cons, Tree.calls_eq, List.append_assoc,
      List.singleton_append]

/-- The calls that a walk goes through return among all that do. -/
theorem answers_subset (h : Walk leaf operation w todo journal returns answers journal') : answers ⊆ returns := by
  induction h with
  | nil => exact List.Subset.refl _
  | cons _ _ _ _ ih => exact List.subset_append_of_subset_right _ (List.cons_subset_cons _ ih)

/-- Each call is one that the walk goes through, or lies within one. -/
theorem prefix_of_mem (h : Walk leaf operation w todo journal returns answers journal') (hr : r ∈ returns) :
    ∃ x ∈ todo, x.1 <+: r.place := by
  induction h with
  | nil => cases hr
  | cons _ _ _ ihwithin ih =>
    rcases List.mem_append.1 hr with hr | hr
    · obtain ⟨x, hx, hprefix⟩ := ihwithin hr
      exact ⟨_, List.mem_cons_self, (Tree.prefix_of_mem_asked hx).1.trans hprefix⟩
    rcases List.mem_cons.1 hr with rfl | hr
    · exact ⟨_, List.mem_cons_self, List.prefix_refl _⟩
    · obtain ⟨x, hx, hprefix⟩ := ih hr
      exact ⟨x, List.mem_cons_of_mem _ hx, hprefix⟩

/-- The calls within a component lie deeper than it. -/
theorem deeper {place : List κ} {tree : Tree σ κ α}
    (h : Walk leaf operation w (tree.asked operation w place) journal returns answers journal') (hr : r ∈ returns) :
    place <+: r.place ∧ place.length < r.place.length := by
  obtain ⟨x, hx, hprefix⟩ := h.prefix_of_mem hr
  obtain ⟨hplace, hlength⟩ := Tree.prefix_of_mem_asked hx
  have hle := hprefix.length_le
  exact ⟨hplace.trans hprefix, by omega⟩

/-- A walk through components at one depth makes no call within another component at this depth. -/
theorem not_prefix {n : Nat} {place : List κ} (h : Walk leaf operation w todo journal returns answers journal')
    (hlength : ∀ x ∈ todo, x.1.length = n) (hplace : place.length = n) (hnot : place ∉ todo.map Prod.fst)
    (hr : r ∈ returns) : ¬place <+: r.place := by
  intro hprefix
  obtain ⟨x, hx, hxr⟩ := h.prefix_of_mem hr
  have hle : place.length = x.1.length := by rw [hplace, hlength x hx]
  have heq : place = x.1 := (List.prefix_of_prefix_length_le hprefix hxr (Nat.le_of_eq hle)).eq_of_length hle
  exact hnot (heq ▸ List.mem_map_of_mem hx)

/-- The calls that a walk goes through are those at its depth. -/
theorem filter_length {n : Nat} (h : Walk leaf operation w todo journal returns answers journal')
    (hlength : ∀ x ∈ todo, x.1.length = n) : returns.filter (fun r => r.place.length = n) = answers := by
  induction h with
  | nil => rfl
  | @cons r _ within _ _ _ _ _ _ hwithin _ _ _ ih =>
    have hr : r.place.length = n := hlength _ List.mem_cons_self
    have hnone : within.filter (fun c => c.place.length = n) = [] := by
      refine List.filter_eq_nil_iff.2 fun c hc => ?_
      have hdeeper := (hwithin.deeper hc).2
      simp only [decide_eq_true_eq]
      omega
    rw [List.filter_append, hnone, List.nil_append, List.filter_cons_of_pos (by simpa using hr),
      ih fun x hx => hlength x (List.mem_cons_of_mem _ hx)]

/-- Every call closes by the calls beneath its place, and these are a walk of their own. -/
theorem closes [DecidableEq κ] {n : Nat} (h : Walk leaf operation w todo journal returns answers journal')
    (hlength : ∀ x ∈ todo, x.1.length = n) (hnodup : (todo.map Prod.fst).Nodup) (hr : r ∈ returns) :
    ∃ before within body,
      Walk leaf operation w (r.whom.asked operation w r.place) before within (Return.beneath r.place returns) body ∧
        r.Closes leaf operation w (Return.beneath r.place returns) body := by
  induction h generalizing n with
  | nil => cases hr
  | @cons r₀ todo within asked returns answers journal body journal' hwithin hcloses hrest ihwithin ih =>
    have hlength₀ : r₀.place.length = n := hlength _ List.mem_cons_self
    have hlengths : ∀ x ∈ todo, x.1.length = n := fun x hx => hlength x (List.mem_cons_of_mem _ hx)
    obtain ⟨hnot, hnodups⟩ := List.nodup_cons.1 hnodup
    have hapart : ∀ c ∈ returns, ¬r₀.place <+: c.place := fun c hc => hrest.not_prefix hlengths hlength₀ hnot hc
    rw [← List.singleton_append, Return.beneath_append, Return.beneath_append]
    rcases List.mem_append.1 hr with hr | hr
    · have hdeeper := hwithin.deeper hr
      have hothers : Return.beneath r.place returns = [] := Return.beneath_eq_nil fun c hc hbeneath =>
        hapart c hc (hdeeper.1.trans (Return.beneath_iff.1 hbeneath).1)
      rw [Return.beneath_singleton (Nat.le_of_lt hdeeper.2), hothers, List.append_nil, List.append_nil]
      exact ihwithin (fun x hx => (Tree.prefix_of_mem_asked hx).2) (Tree.nodup_asked ..) hr
    rcases List.mem_cons.1 hr with rfl | hr
    · have hasked : Return.beneath r.place within = asked := by
        rw [← hwithin.filter_length fun x hx => (Tree.prefix_of_mem_asked hx).2]
        refine List.filter_congr fun c hc => ?_
        simp [Return.beneath_iff, (hwithin.deeper hc).1]
      have hothers : Return.beneath r.place returns = [] := Return.beneath_eq_nil fun c hc hbeneath =>
        hapart c hc (Return.beneath_iff.1 hbeneath).1
      rw [hasked, Return.beneath_singleton (Nat.le_refl _), hothers, List.append_nil, List.append_nil]
      exact ⟨_, _, _, hwithin, hcloses⟩
    · have hdeep : r₀.place.length ≤ r.place.length := by
        obtain ⟨x, hx, hprefix⟩ := hrest.prefix_of_mem hr
        rw [hlength₀, ← hlengths x hx]
        exact hprefix.length_le
      -- a call within the first component lies beneath no place that is not within it
      have hothers : Return.beneath r.place within = [] := Return.beneath_eq_nil fun c hc hbeneath =>
        hapart r hr (List.prefix_of_prefix_length_le (hwithin.deeper hc).1 (Return.beneath_iff.1 hbeneath).1 hdeep)
      rw [hothers, Return.beneath_singleton hdeep, List.nil_append, List.nil_append]
      exact ih hlengths hnodups hr

end Walk

end Supervision

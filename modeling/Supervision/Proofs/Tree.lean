import Supervision.Proofs.Visits

/-!
# Trees of managers

Managers nest: a component of a manager may be a manager itself. A `Tree` unfolds what the components of a manager are, down to
the leaves that are none. Which of them are registered is a matter of the world, as long as nothing changes it
(`Tree.Unmoved`). `Tree.request_visits` says what a request to a tree of managers comes to if its leaves answer and leave the
registrations alone: it visits the leaves in one pass, and the answers of the managers follow from those of the leaves
(`Tree.Concludes`).
-/

namespace Supervision

variable {σ ρ κ α β : Type}

/-- A tree of managers with leaves of any kind. A manager knows what stands behind every identity that may be registered. -/
inductive Tree (σ κ α : Type) : Type where
  | leaf (a : α)
  | manager (seat : Part σ (Registry κ)) (children : κ → Tree σ κ α)

namespace Tree

/-- A tree as a component. -/
def component (leaf : α → Lifecycle σ) : Tree σ κ α → Lifecycle σ
  | .leaf a => leaf a
  | .manager seat children => (Manager.mk seat fun k => (children k).component leaf).toLifecycle

/-- The name of a tree as a component. -/
def name (leaf : α → String) : Tree σ κ α → String
  | .leaf a => leaf a
  | .manager _ _ => Manager.name

/-- The leaves that are registered in a world, from left to right. -/
def leaves (w : σ) : Tree σ κ α → List α
  | .leaf a => [a]
  | .manager seat children => (seat.get w).members.flatMap fun k => (children k).leaves w

/-- The registrations of a tree are in one world as they are in another. -/
def Unmoved (w w' : σ) : Tree σ κ α → Prop
  | .leaf _ => True
  | .manager seat children => seat.get w' = seat.get w ∧ ∀ k ∈ (seat.get w).members, (children k).Unmoved w w'

/-- A tree of which each leaf knows its place: the identities that lead to it behind those of a path. -/
def located (path : List κ) : Tree σ κ α → Tree σ κ (List κ × α)
  | .leaf a => .leaf (path, a)
  | .manager seat children => .manager seat fun k => (children k).located (path ++ [k])

/-- A tree in the world with a record beside it. -/
def beside : Tree σ κ α → Tree (ρ × σ) κ α
  | .leaf a => .leaf a
  | .manager seat children => .manager (Part.snd.comp seat) fun k => (children k).beside

/-- The name of a tree of managers says whether it is a leaf, and which. -/
theorem component_name (leaf : α → Lifecycle σ) (tree : Tree σ κ α) :
    (tree.component leaf).name = tree.name fun a => (leaf a).name := by
  cases tree <;> rfl

/-- What is registered is the same in worlds that do not differ in the registrations. -/
theorem Unmoved.leaves_eq {tree : Tree σ κ α} {w w' : σ} (h : tree.Unmoved w w') : tree.leaves w' = tree.leaves w := by
  induction tree with
  | leaf a => rfl
  | manager seat children ih =>
    rw [leaves, leaves, h.1]
    exact List.flatMap_congr fun k hk => ih k (h.2 k hk)

theorem unmoved_refl (tree : Tree σ κ α) (w : σ) : tree.Unmoved w w := by
  induction tree with
  | leaf a => trivial
  | manager seat children ih => exact ⟨rfl, fun k _ => ih k⟩

theorem Unmoved.trans {tree : Tree σ κ α} {w w' w'' : σ} (h : tree.Unmoved w w') (h' : tree.Unmoved w' w'') :
    tree.Unmoved w w'' := by
  induction tree with
  | leaf a => trivial
  | manager seat children ih =>
    refine ⟨h'.1.trans h.1, fun k hk => ih k (h.2 k hk) (h'.2 k ?_)⟩
    rwa [h.1]

/-- A leaf of a registered component is a leaf of the manager. -/
theorem mem_leaves_manager {seat : Part σ (Registry κ)} {children : κ → Tree σ κ α} {w : σ} {k : κ} {a : α}
    (hk : k ∈ (seat.get w).members) (ha : a ∈ (children k).leaves w) : a ∈ (Tree.manager seat children).leaves w :=
  List.mem_flatMap.2 ⟨k, hk, ha⟩

/-! ## Places and records -/

/-- A tree whose leaves know their places is the same component. -/
theorem component_located (leaf : α → Lifecycle σ) (tree : Tree σ κ α) (path : List κ) :
    (tree.located path).component (fun x => leaf x.2) = tree.component leaf := by
  induction tree generalizing path with
  | leaf a => rfl
  | manager seat children ih =>
    rw [located, component, component]
    exact congrArg (fun c => (Manager.mk seat c).toLifecycle) (funext fun k => ih k _)

/-- A tree beside a record does with the world what the tree does if its leaves do. -/
theorem beside_mirrors {outer : α → Lifecycle (ρ × σ)} {inner : α → Lifecycle σ}
    (h : ∀ a, (outer a).Mirrors Prod.snd (inner a)) (tree : Tree σ κ α) :
    (tree.beside.component outer).Mirrors Prod.snd (tree.component inner) := by
  induction tree with
  | leaf a => exact h a
  | manager seat children ih => exact Manager.Mirrors.toLifecycle ⟨Part.shows_beside seat, ih⟩

theorem leaves_beside (tree : Tree σ κ α) (w : ρ × σ) : tree.beside.leaves w = tree.leaves w.2 := by
  induction tree with
  | leaf a => rfl
  | manager seat children ih => exact List.flatMap_congr fun k _ => ih k

theorem unmoved_beside (tree : Tree σ κ α) (w w' : ρ × σ) : tree.beside.Unmoved w w' ↔ tree.Unmoved w.2 w'.2 := by
  induction tree with
  | leaf a => rfl
  | manager seat children ih => exact and_congr_right fun _ => forall₂_congr fun k _ => ih k

theorem leaves_located (tree : Tree σ κ α) (path : List κ) (w : σ) :
    ((tree.located path).leaves w).map Prod.snd = tree.leaves w := by
  induction tree generalizing path with
  | leaf a => rfl
  | manager seat children ih =>
    rw [located, leaves, leaves, List.map_flatMap]
    exact List.flatMap_congr fun k _ => ih k _

theorem unmoved_located (tree : Tree σ κ α) (path : List κ) (w w' : σ) :
    (tree.located path).Unmoved w w' ↔ tree.Unmoved w w' := by
  induction tree generalizing path with
  | leaf a => rfl
  | manager seat children ih => exact and_congr_right fun _ => forall₂_congr fun k _ => ih k _

/-- The place of a leaf begins with the path to the tree. -/
theorem prefix_of_mem_located {tree : Tree σ κ α} {path : List κ} {w : σ} {x : List κ × α}
    (h : x ∈ (tree.located path).leaves w) : path <+: x.1 := by
  induction tree generalizing path with
  | leaf a =>
    obtain rfl := List.mem_singleton.1 h
    exact List.prefix_refl _
  | manager seat children ih =>
    obtain ⟨k, -, hx⟩ := List.mem_flatMap.1 h
    exact (List.prefix_append _ _).trans (ih k hx)

/-! ## Requests -/

/-- What the managers of a tree make of visits to its leaves: the answer of the tree. A manager gives the verdict on its
components, each of which concludes on the visits beneath it. -/
inductive Concludes (leaf : α → String) (operation : Request) (w : σ) : Tree σ κ α → List (Visit α) → Reply Unit → Prop where
  | leaf (v : Visit α) : Concludes leaf operation w (.leaf v.whom) [v] v.reply
  | manager {seat : Part σ (Registry κ)} {children : κ → Tree σ κ α} (beneath : List (Visit κ × List (Visit α))) :
      beneath.map (fun b => b.1.whom) = Batch.order operation (seat.get w).members →
      (∀ b ∈ beneath, Concludes leaf operation w (children b.1.whom) b.2 b.1.reply) →
      Concludes leaf operation w (.manager seat children) (beneath.flatMap Prod.snd)
        (Batch.verdict operation (Batch.failures (fun k => (children k).name leaf) (beneath.map Prod.fst)))

/-- To go through lists one after the other is to go through each of them, in that order. -/
theorem order_flatMap {γ δ : Type} (operation : Request) (f : γ → List δ) (members : List γ) :
    Batch.order operation (members.flatMap f) = (Batch.order operation members).flatMap fun c => Batch.order operation (f c) := by
  cases operation with
  | start => rfl
  | stop => exact List.reverse_flatMap

/-- The visits of a tree go to its leaves, each as often as it occurs: from left to right for a start, and in the exact reverse
for a stop. -/
theorem Concludes.whom {leaf : α → String} {operation : Request} {w : σ} {tree : Tree σ κ α} {visits : List (Visit α)}
    {reply : Reply Unit} (h : Concludes leaf operation w tree visits reply) :
    visits.map Visit.whom = Batch.order operation (tree.leaves w) := by
  induction h with
  | leaf v => cases operation <;> rfl
  | manager beneath hmembers _ ih =>
    rw [leaves, order_flatMap, ← hmembers, List.map_flatMap, List.flatMap_map]
    exact List.flatMap_congr ih

variable {I : σ → Prop} {step : Visit α → σ → σ → Prop} {leaf : α → Lifecycle σ} {operation : Request} {w : σ}

/-- What a component of a manager does when its turn comes: it passes through the leaves beneath it and concludes on them. -/
def Turn (leaf : α → Lifecycle σ) (step : Visit α → σ → σ → Prop) (operation : Request) (w : σ) (children : κ → Tree σ κ α)
    (v : Visit κ) (u u' : σ) : Prop :=
  ∃ visits, Passes step u visits u' ∧ (∀ x ∈ visits, x.request = operation) ∧
    Concludes (fun a => (leaf a).name) operation w (children v.whom) visits v.reply

/-- Turns of components one after the other are one pass through the leaves beneath them. -/
theorem passes_of_turns {children : κ → Tree σ κ α} {turns : List (Visit κ)} {u u' : σ}
    (h : Passes (Turn leaf step operation w children) u turns u') :
    ∃ beneath : List (Visit κ × List (Visit α)), beneath.map Prod.fst = turns ∧
      Passes step u (beneath.flatMap Prod.snd) u' ∧ (∀ x ∈ beneath.flatMap Prod.snd, x.request = operation) ∧
      ∀ b ∈ beneath, Concludes (fun a => (leaf a).name) operation w (children b.1.whom) b.2 b.1.reply := by
  induction h with
  | nil u => exact ⟨[], rfl, .nil _, by simp, by simp⟩
  | cons hturn _ ih =>
    obtain ⟨visits, hpasses, hrequest, hconcludes⟩ := hturn
    obtain ⟨beneath, hturns, hpasses', hrequest', hconcludes'⟩ := ih
    refine ⟨(_, visits) :: beneath, by rw [List.map_cons, hturns], hpasses.append hpasses', ?_, ?_⟩
    · rw [List.flatMap_cons]
      exact List.forall_mem_append.2 ⟨hrequest, hrequest'⟩
    · exact List.forall_mem_cons.2 ⟨hconcludes, hconcludes'⟩

/-- A request to a tree of managers is one pass through its leaves, as they are registered when it comes, if each of them answers
and leaves the registrations of the tree alone. -/
theorem request_visits (tree : Tree σ κ α) (hI : ∀ u, I u → tree.Unmoved w u)
    (hleaf : ∀ a ∈ tree.leaves w, ∀ s : Stage σ, I s.world → ∃ reply t, (leaf a).request operation s = .ok reply t ∧
      step ⟨a, operation, reply⟩ s.world t.world ∧ I t.world) (s : Stage σ) (hs : I s.world) :
    ∃ visits reply t, (tree.component leaf).request operation s = .ok reply t ∧ Passes step s.world visits t.world ∧
      (∀ v ∈ visits, v.request = operation) ∧ Concludes (fun a => (leaf a).name) operation w tree visits reply ∧ I t.world := by
  induction tree generalizing s with
  | leaf a =>
    obtain ⟨reply, t, ht, hstep, hIt⟩ := hleaf a (List.mem_singleton.2 rfl) s hs
    exact ⟨[⟨a, operation, reply⟩], reply, t, ht, .cons hstep (.nil _), by simp, .leaf ⟨a, operation, reply⟩, hIt⟩
  | manager seat children ih =>
    have hmembers : (seat.get s.world).members = (seat.get w).members := by rw [(hI s.world hs).1]
    -- by induction, the turn of a component in the batch of its manager is a pass through the leaves beneath it
    have hturn : ∀ k ∈ (seat.get w).members, ∀ u : Stage σ, I u.world → ∃ reply t,
        ((children k).component leaf).request operation u = .ok reply t ∧
          Turn leaf step operation w children ⟨k, operation, reply⟩ u.world t.world ∧ I t.world := by
      intro k hk u hu
      obtain ⟨visits, reply, t, ht, hpasses, hrequest, hconcludes, hIt⟩ := ih k (fun u hu => (hI u hu).2 k hk)
        (fun a ha => hleaf a (mem_leaves_manager hk ha)) u hu
      exact ⟨reply, t, ht, ⟨visits, hpasses, hrequest, hconcludes⟩, hIt⟩
    obtain ⟨turns, t, ht, hpasses, hwhom, -, hIt⟩ := Batch.run_visits (seat.get w).members hturn s hs
    obtain ⟨beneath, rfl, hpasses', hrequest', hconcludes⟩ := passes_of_turns hpasses
    rw [List.map_map] at hwhom
    have hconclusion : Concludes _ operation w (.manager seat children) _ _ := .manager beneath hwhom hconcludes
    refine ⟨beneath.flatMap Prod.snd, _, t, ?_, hpasses', hrequest', hconclusion, hIt⟩
    rw [← hmembers] at ht
    have hnames : (fun k => ((children k).component leaf).name) = fun k => (children k).name fun a => (leaf a).name :=
      funext fun k => component_name leaf (children k)
    rw [← hnames]
    exact ht

end Tree

end Supervision

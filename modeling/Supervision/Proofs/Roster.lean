import Supervision.Proofs.Manager
import Mathlib.Data.List.Basic

/-!
# The registrations of a manager in the light of their history

A `Change` is what may be done to the registrations of a manager, and a `Deed` is a change with the identity that it was about
and the answer that it got. What is registered is said from the deeds alone: `Deed.Standing` says which identities are, and
`Deed.age` how long ago each was added, so that the oldest comes first (`Deed.Listed`). One change keeps the list in step with the
deeds (`Deed.Listed.snoc`), and so does a run of them (`Change.run_listed`).
-/

namespace Supervision

variable {σ κ : Type}

/-- An owner hands its component out, and leaves the registrations at a place alone. -/
structure Owner.Civil (seat : Part σ (Registry κ)) (owner : Owner σ κ) : Prop where
  returns : owner.component.Returns
  apart : owner.component.Leads fun w w' => seat.get w' = seat.get w

/-- What may be done to the registrations of a manager. -/
inductive Change (seat : Part σ (Registry κ)) : Type where
  | add (k : κ)
  | addOwned (owner : Owner σ κ) (civil : owner.Civil seat)
  | remove (k : κ)
  | removeOwned (owner : Owner σ κ) (civil : owner.Civil seat)
  | clear

/-- What was done to the registrations: a component was to be added, and was new or not; it was to be taken out, and was
registered or not; or all registrations were dropped. -/
inductive Deed (κ : Type) where
  | add (k : κ) (new : Bool)
  | remove (k : κ) (found : Bool)
  | clear
deriving DecidableEq

namespace Deed

/-- What the operation answered, if it answers something. -/
def answer : Deed κ → Option Bool
  | add _ new => some new
  | remove _ found => some found
  | clear => none

/-- An identity is registered behind deeds: it was added, and since then neither taken out nor dropped with all others. -/
def Standing (deeds : List (Deed κ)) (k : κ) : Prop :=
  ∃ before after, deeds = before ++ add k true :: after ∧ remove k true ∉ after ∧ clear ∉ after

/-- A deed answers what there is to answer behind others: to add something succeeds if it is not registered, and to take it out
if it is. -/
def Right (before : List (Deed κ)) : Deed κ → Prop
  | add k new => new = true ↔ ¬Standing before k
  | remove k found => found = true ↔ Standing before k
  | clear => True

/-- Every deed answers what there is to answer behind those before it. -/
def AllRight (deeds : List (Deed κ)) : Prop :=
  ∀ before d after, deeds = before ++ d :: after → d.Right before

theorem standing_nil (k : κ) : ¬Standing [] k := by
  rintro ⟨before, after, h, -⟩
  exact absurd h (by simp)

/-- What the last deed makes of the registrations. -/
theorem standing_snoc {deeds : List (Deed κ)} {d : Deed κ} {k : κ} :
    Standing (deeds ++ [d]) k ↔ d = add k true ∨ (Standing deeds k ∧ d ≠ remove k true ∧ d ≠ clear) := by
  constructor
  · rintro ⟨before, after, h, hremove, hclear⟩
    rcases List.eq_nil_or_concat after with rfl | ⟨rest, last, rfl⟩
    · left
      exact List.singleton_inj.1 (List.append_inj' h rfl).2
    · right
      rw [List.concat_eq_append] at h hremove hclear
      rw [show before ++ add k true :: (rest ++ [last]) = (before ++ add k true :: rest) ++ [last] by simp] at h
      obtain ⟨rfl, hlast⟩ := List.append_inj' h rfl
      obtain rfl := List.singleton_inj.1 hlast
      simp only [List.mem_append, List.mem_singleton, not_or] at hremove hclear
      exact ⟨⟨before, rest, rfl, hremove.1, hclear.1⟩, Ne.symm hremove.2, Ne.symm hclear.2⟩
  · rintro (rfl | ⟨⟨before, after, rfl, hremove, hclear⟩, hd, hd'⟩)
    · exact ⟨deeds, [], rfl, List.not_mem_nil, List.not_mem_nil⟩
    · refine ⟨before, after ++ [d], by simp, ?_, ?_⟩
      · simpa [hremove] using Ne.symm hd
      · simpa [hclear] using Ne.symm hd'

theorem allRight_nil : AllRight ([] : List (Deed κ)) := by
  intro before d after h
  exact absurd h (by simp)

theorem AllRight.snoc {deeds : List (Deed κ)} {d : Deed κ} (h : AllRight deeds) (hd : d.Right deeds) :
    AllRight (deeds ++ [d]) := by
  intro before d' after hsplit
  rcases List.eq_nil_or_concat after with rfl | ⟨rest, last, rfl⟩
  · obtain ⟨rfl, hlast⟩ := List.append_inj' hsplit rfl
    obtain rfl := List.singleton_inj.1 hlast
    exact hd
  · rw [List.concat_eq_append,
      show before ++ d' :: (rest ++ [last]) = (before ++ d' :: rest) ++ [last] by simp] at hsplit
    exact h before d' rest (List.append_inj' hsplit rfl).1

variable [DecidableEq κ]

/-- How many deeds there were since an identity was added for the last time. -/
def age (deeds : List (Deed κ)) (k : κ) : Nat :=
  deeds.reverse.idxOf (add k true)

/-- Identities are listed as the deeds have it: those that are registered, each once, the one that was added longest ago first. -/
structure Listed (deeds : List (Deed κ)) (members : List κ) : Prop where
  nodup : members.Nodup
  standing : ∀ k, k ∈ members ↔ Standing deeds k
  oldest_first : members.Pairwise fun k k' => age deeds k' < age deeds k

theorem age_snoc (deeds : List (Deed κ)) (d : Deed κ) (k : κ) :
    age (deeds ++ [d]) k = if d = add k true then 0 else age deeds k + 1 := by
  rw [age, age, List.reverse_append, List.reverse_singleton, List.singleton_append, List.idxOf_cons]
  by_cases hd : d = add k true
  · rw [if_pos hd, beq_iff_eq.2 hd, cond_true]
  · rw [if_neg hd, beq_eq_false_iff_ne.2 hd, cond_false]

/-- The registry that a deed leaves. -/
def registry : Deed κ → Registry κ → Registry κ
  | add k _, registry => registry.insert k
  | remove k _, registry => registry.erase k
  | clear, _ => .empty

/-- A deed answers what a registry has it answer. -/
def Fits (registry : Registry κ) : Deed κ → Prop
  | add k new => new = !registry.contains k
  | remove k found => found = registry.contains k
  | clear => True

variable {deeds : List (Deed κ)} {registry : Registry κ} {d : Deed κ}

theorem listed_nil : Listed ([] : List (Deed κ)) [] where
  nodup := List.nodup_nil
  standing k := by simp [standing_nil]
  oldest_first := .nil

theorem Fits.right (hd : d.Fits registry) (h : Listed deeds registry.members) : d.Right deeds := by
  cases d with
  | add k new =>
    rw [Right, ← h.standing, ← registry.contains_iff, show new = !registry.contains k from hd]
    simp only [Bool.not_eq_true', Bool.not_eq_true]
  | remove k found => rw [Right, ← h.standing, ← registry.contains_iff, hd]
  | clear => trivial

/-- A new identity goes behind all others. -/
theorem Listed.added {members : List κ} {k : κ} (h : Listed deeds members) (hk : k ∉ members) :
    Listed (deeds ++ [add k true]) (members ++ [k]) := by
  have hne : ∀ k' ∈ members, add k true ≠ add k' true := by
    intro k' hk' he
    cases he
    exact hk hk'
  refine ⟨?_, ?_, ?_⟩
  · refine List.nodup_append.2 ⟨h.nodup, by simp, ?_⟩
    rintro k' hk' _ hmem rfl
    exact hk (List.mem_singleton.1 hmem ▸ hk')
  · intro k'
    rw [standing_snoc, ← h.standing, List.mem_append, List.mem_singleton]
    constructor
    · rintro (hk' | rfl)
      · exact .inr ⟨hk', by simp, by simp⟩
      · exact .inl rfl
    · rintro (he | ⟨hk', -⟩)
      · cases he
        exact .inr rfl
      · exact .inl hk'
  · rw [List.pairwise_append]
    refine ⟨?_, List.pairwise_singleton _ _, ?_⟩
    · -- all that are listed get older by one deed
      refine h.oldest_first.imp_of_mem fun {k₁ k₂} h₁ h₂ hlt => ?_
      rw [age_snoc, age_snoc, if_neg (hne k₁ h₁), if_neg (hne k₂ h₂)]
      omega
    · intro k' hk' k'' hk''
      rw [List.mem_singleton.1 hk'', age_snoc, age_snoc, if_neg (hne k' hk'), if_pos rfl]
      omega

/-- Behind a deed that adds nothing, those that are registered still are listed in their order. -/
theorem Listed.thinned {members : List κ} (h : Listed deeds members) (p : κ → Bool) (hadd : ∀ k, d ≠ add k true)
    (hp : ∀ k ∈ members, p k = true ↔ d ≠ remove k true ∧ d ≠ clear) : Listed (deeds ++ [d]) (members.filter p) := by
  refine ⟨h.nodup.filter p, ?_, ?_⟩
  · intro k
    rw [standing_snoc, ← h.standing, List.mem_filter]
    constructor
    · rintro ⟨hk, hpk⟩
      exact .inr ⟨hk, (hp k hk).1 hpk⟩
    · rintro (he | ⟨hk, hd⟩)
      · exact absurd he (hadd k)
      · exact ⟨hk, (hp k hk).2 hd⟩
  · refine (h.oldest_first.filter p).imp fun {k k'} hlt => ?_
    rw [age_snoc, age_snoc, if_neg (hadd k), if_neg (hadd k')]
    omega

/-- A deed without an effect leaves the list as it is. -/
theorem Listed.kept {members : List κ} (h : Listed deeds members) (hadd : ∀ k, d ≠ add k true)
    (hremove : ∀ k, d ≠ remove k true) (hclear : d ≠ clear) : Listed (deeds ++ [d]) members := by
  have hthinned := h.thinned (fun _ => true) hadd fun k _ => by simp [hremove k, hclear]
  rwa [List.filter_true] at hthinned

/-- A list of identities stays in step with the deeds. -/
theorem Listed.snoc (h : Listed deeds registry.members) (hd : d.Fits registry) :
    Listed (deeds ++ [d]) (d.registry registry).members := by
  cases d with
  | add k new =>
    obtain rfl : new = !registry.contains k := hd
    rw [Deed.registry, Registry.members_insert]
    cases hk : registry.contains k with
    | false =>
      have hnew : k ∉ registry.members := by
        rw [← registry.contains_iff, hk]
        exact Bool.false_ne_true
      exact h.added hnew
    | true => exact h.kept (by simp) (by simp) (by simp)
  | remove k found =>
    obtain rfl : found = registry.contains k := hd
    cases hk : registry.contains k with
    | false =>
      rw [Deed.registry, Registry.erase_of_not_contains hk]
      exact h.kept (by simp) (by simp) (by simp)
    | true => exact h.thinned _ (by simp) fun k' _ => by simpa using ne_comm
  | clear => exact ⟨List.nodup_nil, fun k => by simp [Deed.registry, Registry.empty, standing_snoc], .nil⟩

end Deed

namespace Change

variable [DecidableEq κ] {seat : Part σ (Registry κ)}

/-- Makes a change, and tells what was done. -/
def run (manager : Manager σ κ) : Change seat → Act σ (Deed κ)
  | add k => return .add k (← manager.add k)
  | addOwned owner _ => do
    let k ← owner.component
    return .add k (← manager.add k)
  | remove k => return .remove k (← manager.remove k)
  | removeOwned owner _ => do
    let k ← owner.component
    return .remove k (← manager.remove k)
  | clear => do
    manager.clear
    return .clear

/-- Makes a change with the operation that there is for it, and answers what the operation does, if it answers something. -/
def ask (manager : Manager σ κ) : Change seat → Act σ (Option Bool)
  | add k => some <$> manager.add k
  | addOwned owner _ => some <$> manager.addOwned owner
  | remove k => some <$> manager.remove k
  | removeOwned owner _ => some <$> manager.removeOwned owner
  | clear => do
    manager.clear
    return none

/-- What an operation answers is in the deed. -/
theorem ask_eq (manager : Manager σ κ) (c : Change seat) : c.ask manager = Deed.answer <$> c.run manager := by
  cases c <;> simp [ask, run, Manager.addOwned, Manager.removeOwned, Deed.answer]

theorem mapM_ask (manager : Manager σ κ) (changes : List (Change seat)) :
    changes.mapM (ask manager) = List.map Deed.answer <$> changes.mapM (run manager) := by
  induction changes with
  | nil => simp
  | cons c changes ih =>
    simp only [List.mapM_cons, ask_eq, ih, map_eq_pure_bind, bind_assoc, pure_bind, List.map_cons]

/-- Changes see of the components nothing but their names. -/
theorem run_congr {component component' : κ → Lifecycle σ} (hnames : ∀ k, (component' k).name = (component k).name) :
    (run ⟨seat, component'⟩ : Change seat → Act σ (Deed κ)) = run ⟨seat, component⟩ := by
  funext c
  cases c <;> simp only [run, Manager.add, Manager.remove, Manager.contains, Manager.clear, Manager.size, hnames]

/-- A change is made in any case: what it answers fits what was registered, and it leaves what the deed has it leave. -/
theorem run_apply (hlawful : seat.Lawful) (component : κ → Lifecycle σ) (c : Change seat) (s : Stage σ) :
    ∃ d t, c.run ⟨seat, component⟩ s = .ok d t ∧ d.Fits (seat.get s.world) ∧
      seat.get t.world = d.registry (seat.get s.world) := by
  have hadd := Manager.add_apply ⟨seat, component⟩ hlawful
  have hremove := Manager.remove_apply ⟨seat, component⟩ hlawful
  cases c with
  | add k =>
    obtain ⟨journal, h⟩ := hadd k s
    exact ⟨_, _, Act.bind_ok h, rfl, hlawful.get_set _ _⟩
  | addOwned owner civil =>
    obtain ⟨k, u, hu⟩ := civil.returns s
    have hapart := civil.apart s
    rw [Act.leaves_of_ok hu] at hapart
    obtain ⟨journal, h⟩ := hadd k u
    rw [← hapart]
    exact ⟨_, _, (Act.bind_ok hu).trans (Act.bind_ok h), rfl, hlawful.get_set _ _⟩
  | remove k =>
    obtain ⟨journal, h⟩ := hremove k s
    exact ⟨_, _, Act.bind_ok h, rfl, hlawful.get_set _ _⟩
  | removeOwned owner civil =>
    obtain ⟨k, u, hu⟩ := civil.returns s
    have hapart := civil.apart s
    rw [Act.leaves_of_ok hu] at hapart
    obtain ⟨journal, h⟩ := hremove k u
    rw [← hapart]
    exact ⟨_, _, (Act.bind_ok hu).trans (Act.bind_ok h), rfl, hlawful.get_set _ _⟩
  | clear => exact ⟨.clear, _, rfl, trivial, hlawful.get_set _ _⟩

/-- Changes are made one after the other, and the list stays in step with all that was done. -/
theorem run_listed (hlawful : seat.Lawful) (component : κ → Lifecycle σ) (changes : List (Change seat)) {before : List (Deed κ)}
    {s : Stage σ} (hlisted : Deed.Listed before (seat.get s.world).members) (hright : Deed.AllRight before) :
    ∃ deeds t, changes.mapM (run ⟨seat, component⟩) s = .ok deeds t ∧
      Deed.Listed (before ++ deeds) (seat.get t.world).members ∧ Deed.AllRight (before ++ deeds) := by
  induction changes generalizing before s with
  | nil => exact ⟨[], s, rfl, by rwa [List.append_nil], by rwa [List.append_nil]⟩
  | cons c changes ih =>
    obtain ⟨d, u, hu, hfits, hregistry⟩ := c.run_apply hlawful component s
    have hstep := hlisted.snoc hfits
    rw [← hregistry] at hstep
    obtain ⟨deeds, t, ht, hlisted', hright'⟩ := ih hstep (hright.snoc (hfits.right hlisted))
    refine ⟨d :: deeds, t, ?_, by simpa using hlisted', by simpa using hright'⟩
    rw [List.mapM_cons]
    exact (Act.bind_ok hu).trans (Act.bind_ok ht)

end Change

namespace Manager

variable [DecidableEq κ]

/-- To add what is registered changes nothing. -/
theorem add_registered (manager : Manager σ κ) {k : κ} {s : Stage σ} (hk : (manager.seat.get s.world).contains k = true) :
    manager.add k s = .ok false (s.tell [.alreadyRegistered (manager.component k).name]) := by
  have hcontains : manager.contains k s = .ok true s := by rw [← hk]; rfl
  rw [add, Act.bind_ok hcontains]
  rfl

/-- To take out what is not registered changes nothing, and is not even told. -/
theorem remove_unregistered (manager : Manager σ κ) {k : κ} {s : Stage σ}
    (hk : (manager.seat.get s.world).contains k = false) : manager.remove k s = .ok false s := by
  have hcontains : manager.contains k s = .ok false s := by rw [← hk]; rfl
  rw [remove, Act.bind_ok hcontains]
  rfl

/-- The registrations of a fresh manager are a set of identities in the order of their last addition. Whatever is done to them, each
operation answers what there is to answer behind those before it; registered are those that were added and neither taken out
nor dropped since, each once, the one added longest ago first, and that is what the manager tells of itself. To add what is
registered and to take out what is not changes nothing. All of this is so for any components of the same names: none of them is
ever asked to start or to stop. -/
theorem registrations_ordered_by_latest_add (seat : Part σ (Registry κ)) (hlawful : seat.Lawful)
    (component : κ → Lifecycle σ) (changes : List (Change seat)) (s : Stage σ) (hfresh : seat.get s.world = .empty) :
    ∃ deeds members t,
      changes.mapM (Change.run ⟨seat, component⟩) s = .ok deeds t ∧
      changes.mapM (Change.ask ⟨seat, component⟩) s = .ok (deeds.map Deed.answer) t ∧
      (∀ component', (∀ k, (component' k).name = (component k).name) →
        changes.mapM (Change.run ⟨seat, component'⟩) s = .ok deeds t) ∧
      Deed.AllRight deeds ∧
      (mk seat component).members t = .ok members t ∧
      Deed.Listed deeds members ∧
      (∀ k, (mk seat component).contains k t = .ok (decide (k ∈ members)) t) ∧
      (mk seat component).size t = .ok members.length t ∧
      (mk seat component).isEmpty t = .ok members.isEmpty t ∧
      ∀ u : Stage σ, seat.get u.world = seat.get t.world → ∀ k,
        (k ∈ members → (mk seat component).add k u = .ok false (u.tell [.alreadyRegistered (component k).name])) ∧
        (k ∉ members → (mk seat component).remove k u = .ok false u) := by
  have hempty : Deed.Listed [] (seat.get s.world).members := by
    rw [hfresh]
    exact Deed.listed_nil
  obtain ⟨deeds, t, ht, hlisted, hright⟩ := Change.run_listed hlawful component changes hempty Deed.allRight_nil
  have hask : changes.mapM (Change.ask ⟨seat, component⟩) s = .ok (deeds.map Deed.answer) t := by
    rw [Change.mapM_ask, Act.map_apply, ht]
  refine ⟨deeds, (seat.get t.world).members, t, ht, hask, ?_, hright, rfl, hlisted, fun k => rfl, rfl, rfl, ?_⟩
  · intro component' hnames
    rw [Change.run_congr hnames, ht]
  · intro u hu k
    constructor
    · intro hk
      exact (mk seat component).add_registered (by rwa [hu, Registry.contains_iff])
    · intro hk
      exact (mk seat component).remove_unregistered (by rwa [hu, ← Bool.not_eq_true, Registry.contains_iff])

namespace Rehearsal

/-- Components that all have one name, and that none may ask for anything. -/
def twins (_ : Nat) : Lifecycle (Registry Nat) where
  name := "twin"
  request _ := throw .deadlock

/-- An owner that hands out component 2. -/
def owner : Owner (Registry Nat) Nat :=
  ⟨return 2⟩

theorem owner_civil : owner.Civil Part.whole :=
  ⟨.pure 2, fun _ => rfl⟩

/-- Two components are added, the first of them twice, and then that one leaves and comes back. -/
def changes : List (Change (Part.whole : Part (Registry Nat) (Registry Nat))) :=
  [.add 1, .addOwned owner owner_civil, .add 1, .remove 3, .remove 1, .add 1]

end Rehearsal

/-- `registrations_ordered_by_latest_add` in the rehearsal: the component that left and came back is the last one. -/
theorem registrations_ordered_by_latest_add_rehearsal :
    ∃ deeds members t,
      Rehearsal.changes.mapM (Change.ask (mk Part.whole Rehearsal.twins)) ⟨.empty, []⟩ = .ok (deeds.map Deed.answer) t ∧
      deeds = [.add 1 true, .add 2 true, .add 1 false, .remove 3 false, .remove 1 true, .add 1 true] ∧
      Deed.AllRight deeds ∧ Deed.Listed deeds members ∧ members = [2, 1] := by
  obtain ⟨deeds, members, t, hrun, hask, -, hright, hmembers, hlisted, -⟩ := registrations_ordered_by_latest_add
    Part.whole Part.lawful_whole Rehearsal.twins Rehearsal.changes ⟨.empty, []⟩ rfl
  have hdone : ∃ t', Rehearsal.changes.mapM (Change.run (mk Part.whole Rehearsal.twins)) ⟨.empty, []⟩ =
      .ok [.add 1 true, .add 2 true, .add 1 false, .remove 3 false, .remove 1 true, .add 1 true] t' ∧
        t'.world.members = [2, 1] := ⟨_, rfl, rfl⟩
  obtain ⟨t', hdone, hleft⟩ := hdone
  rw [hrun] at hdone
  cases hdone
  cases hmembers
  exact ⟨_, _, t, hask, rfl, hright, hlisted, hleft⟩

end Manager

end Supervision

import Supervision.Proofs.Refusals

/-!
# Registration in bulk

An operation on several components brings the hook in line once, at its end; the same on each of them in turn does so each time,
and may install the hook and remove it again on the way. As long as the hook refuses nothing, either way what is kept is settled
by the registrations alone (`Coordinator.Settled`), and they are the same.
-/

namespace Supervision

variable {σ κ α : Type}

/-- What is kept of such registrations when all is in line with them. -/
def Registration.settled (registry : Registry κ) : Registration κ where
  registry := registry
  count := registry.size
  installed := decide (0 < registry.size)

namespace Coordinator

variable {c : Coordinator σ κ} {hook : ProcessHook σ} {willing : σ → Prop}

/-- A world in which books, flag and hook agree, and the hook refuses nothing. -/
structure Ready (c : Coordinator σ κ) (hook : ProcessHook σ) (willing : σ → Prop) (w : σ) : Prop where
  agrees : c.Agrees hook w
  willing : willing w

/-- A hook that refuses nothing from now on: a call that is owed is accepted, where books, flag and hook agree, and neither such a call
nor what the coordinator keeps ends that. What it would answer to a call that is not owed is left open. -/
structure Willing (c : Coordinator σ κ) (hook : ProcessHook σ) (willing : σ → Prop) : Prop where
  accepts : ∀ (call : Upkeep) (s : Stage σ), c.Ready hook willing s.world → (c.seat.get s.world).owed = some call →
    ∃ t, c.hook.carry call s = .ok (.ok ()) t ∧ willing t.world
  apart : ∀ r w, willing w → willing (c.seat.set r w)

/-- Such a world with all in line with the registrations. -/
structure Settled (c : Coordinator σ κ) (hook : ProcessHook σ) (willing : σ → Prop) (registry : Registry κ) (w : σ) : Prop
    extends c.Ready hook willing w where
  seat : c.seat.get w = .settled registry

/-- Between two worlds the hook is called at most once. -/
def CallsOnce (hook : ProcessHook σ) (w w' : σ) : Prop :=
  ∃ made, (hook.state w').calls = (hook.state w).calls ++ made ∧ made.length ≤ 1

/-- Several components were dealt with at once, and one after the other, and it has come to the same. -/
structure Alike (c : Coordinator σ κ) (hook : ProcessHook σ) (w : σ) (answer : Nat) (answers : List Bool) (atOnce inTurn : σ) :
    Prop where
  answer : answer = answers.count true
  /-- The registrations, their order, their count and the flag are the same. -/
  seat : c.seat.get atOnce = c.seat.get inTurn
  armed : (hook.state atOnce).armed = (hook.state inTurn).armed
  /-- To deal with them at once takes one call of the hook or none. -/
  once : CallsOnce hook w atOnce

/-! ## Bringing a willing hook in line -/

/-- A hook that refuses nothing is brought in line. -/
theorem Willing.sync (hw : c.Willing hook willing) {s : Stage σ} (hs : c.Ready hook willing s.world) :
    ∃ t, c.sync s = .ok (.ok ()) t ∧ willing t.world := by
  cases howed : (c.seat.get s.world).owed with
  | none => exact ⟨_, sync_idle (Registration.owed_eq_none.1 howed), hs.willing⟩
  | some call =>
    obtain ⟨t, ht, hwilling⟩ := hw.accepts call s hs howed
    obtain ⟨event, hsync⟩ := sync_accepted howed ht
    exact ⟨_, hsync, hw.apart _ _ hwilling⟩

/-- If it goes well to bring the hook in line, all is in line with the registrations. -/
theorem Synced.settled {w w' : σ} (h : c.Synced hook w (.ok ()) w')
    (hcount : (c.seat.get w).count = (c.seat.get w).registry.size) : c.seat.get w' = .settled (c.seat.get w).registry := by
  unfold Registration.settled
  cases h with
  | idle hflag => rw [← hcount, ← hflag]
  | install hc _ hseat _ =>
    rw [hseat, ← hcount, decide_eq_true hc]
    rfl
  | uninstall hc _ hseat _ =>
    have hnone : decide (0 < (c.seat.get w).count) = false := by rw [hc]; rfl
    rw [hseat, ← hcount, hnone]
    rfl

theorem Synced.callsOnce {reply : Reply Unit} {w w' : σ} (h : c.Synced hook w reply w') : CallsOnce hook w w' := by
  cases h with
  | idle _ => exact ⟨[], (List.append_nil _).symm, Nat.zero_le 1⟩
  | install _ _ _ hstate => exact ⟨[_], by rw [hstate]; rfl, Nat.le_refl 1⟩
  | uninstall _ _ _ hstate => exact ⟨[_], by rw [hstate]; rfl, Nat.le_refl 1⟩

/-- An operation that is booked, and the hook then brought in line, goes well and settles what is kept. -/
theorem Ready.settles [DecidableEq κ] (hg : c.Guarded hook) (hw : c.Willing hook willing) {s : Stage σ}
    (hs : c.Ready hook willing s.world) {x : Act σ (Reply α)} {a : α} {e : Enrolment κ}
    (hx : ∃ journal, x s =
      Act.andThen c.sync (fun _ => pure (.ok a)) ⟨c.seat.set (e.booked (c.seat.get s.world)) s.world, journal⟩) :
    ∃ t, x s = .ok (.ok a) t ∧ c.Settled hook willing (e.registry (c.seat.get s.world).registry) t.world ∧
      CallsOnce hook s.world t.world := by
  obtain ⟨journal, hx⟩ := hx
  let u : Stage σ := ⟨c.seat.set (e.booked (c.seat.get s.world)) s.world, journal⟩
  have hget : c.seat.get u.world = e.booked (c.seat.get s.world) := hg.seat.get_set _ _
  have hstate : hook.state u.world = hook.state s.world := hg.honest.apart _ _
  have hbooked : c.Agrees hook u.world := hs.agrees.booked hg rfl rfl
  obtain ⟨t, ht, hwilling⟩ := hw.sync (s := u) ⟨hbooked, hw.apart _ _ hs.willing⟩
  obtain ⟨reply, w, journal', hsync, hcourse⟩ := sync_course hg u
  rw [ht] at hsync
  cases hsync
  have hagrees : c.Agrees hook w := (sync_keeps hg).of_ok ht hbooked
  have hseat := hcourse.settled (by rw [hget]; rfl)
  rw [hget] at hseat
  have honce := hcourse.callsOnce
  rw [CallsOnce, hstate] at honce
  exact ⟨_, hx.trans (Act.andThen_ok ht), ⟨⟨hagrees, hwilling⟩, hseat⟩, honce⟩

/-! ## One after the other -/

/-- One operation after the other settles what is kept, if each does and there is one, or it was so before. They answer whether
each had an effect. -/
theorem Ready.in_turn {single : κ → Act σ (Reply Bool)} {f : Registry κ → κ → Registry κ} {done : Registry κ → κ → Bool}
    (hsingle : ∀ k (s : Stage σ), c.Ready hook willing s.world → ∃ t,
      single k s = .ok (.ok (done (c.seat.get s.world).registry k)) t ∧
        c.Settled hook willing (f (c.seat.get s.world).registry k) t.world)
    {ks : List κ} {s : Stage σ} (hs : c.Ready hook willing s.world)
    (hnone : ks = [] → c.Settled hook willing (c.seat.get s.world).registry s.world) :
    ∃ (answers : List Bool) (u : Stage σ), ks.mapM single s = .ok (answers.map .ok) u ∧
      answers.count true = Registry.effects f done (c.seat.get s.world).registry ks ∧
      c.Settled hook willing (ks.foldl f (c.seat.get s.world).registry) u.world := by
  induction ks generalizing s with
  | nil => exact ⟨[], s, rfl, rfl, hnone rfl⟩
  | cons k ks ih =>
    obtain ⟨t, ht, hsettled⟩ := hsingle k s hs
    have hregistry : (c.seat.get t.world).registry = f (c.seat.get s.world).registry k := by
      rw [hsettled.seat]
      rfl
    rw [← hregistry] at hsettled
    obtain ⟨answers, u, hu, hcount, hend⟩ := ih hsettled.toReady fun _ => hsettled
    rw [hregistry] at hcount hend
    refine ⟨done (c.seat.get s.world).registry k :: answers, u, ?_, ?_, hend⟩
    · rw [List.mapM_cons, Act.bind_ok ht, Act.bind_ok hu]
      rfl
    · rw [List.count_cons, hcount, Registry.effects, Nat.add_comm]
      cases done (c.seat.get s.world).registry k <;> rfl

/-- What settles what is kept at once comes to the same as what settles it in turn. -/
theorem Settled.alike {registry : Registry κ} {w atOnce inTurn : σ} {answer : Nat} {answers : List Bool}
    (hat : c.Settled hook willing registry atOnce) (hin : c.Settled hook willing registry inTurn)
    (hanswer : answers.count true = answer) (honce : CallsOnce hook w atOnce) :
    c.Alike hook w answer answers atOnce inTurn := by
  have hseat : c.seat.get atOnce = c.seat.get inTurn := hat.seat.trans hin.seat.symm
  exact ⟨hanswer.symm, hseat, by rw [← hat.agrees.flag, ← hin.agrees.flag, hseat], honce⟩

/-- If an operation on several components settles what is kept as the same on each of them in turn would, it comes to the same. -/
theorem Ready.alike {single : κ → Act σ (Reply Bool)} {f : Registry κ → κ → Registry κ} {done : Registry κ → κ → Bool}
    (hsingle : ∀ k (s : Stage σ), c.Ready hook willing s.world → ∃ t,
      single k s = .ok (.ok (done (c.seat.get s.world).registry k)) t ∧
        c.Settled hook willing (f (c.seat.get s.world).registry k) t.world)
    {ks : List κ} (hks : ks ≠ []) {s : Stage σ} (hs : c.Ready hook willing s.world) {whole : Act σ (Reply Nat)}
    (hwhole : ∃ t, whole s = .ok (.ok (Registry.effects f done (c.seat.get s.world).registry ks)) t ∧
      c.Settled hook willing (ks.foldl f (c.seat.get s.world).registry) t.world ∧ CallsOnce hook s.world t.world) :
    ∃ answer answers t u, whole s = .ok (.ok answer) t ∧ ks.mapM single s = .ok (answers.map .ok) u ∧
      c.Alike hook s.world answer answers t.world u.world := by
  obtain ⟨t, ht, hsettled, honce⟩ := hwhole
  obtain ⟨answers, u, hu, hcount, hend⟩ := hs.in_turn hsingle fun h => absurd h hks
  exact ⟨_, answers, t, u, ht, hu, hsettled.alike hend hcount honce⟩

/-- As long as the hook refuses nothing, to register components at once and one after the other comes to the same: the same
registrations in the same order, the same count, the same flag and hook, and as many registered as of them were new. So it is with
taking them out, where the hook may be installed and removed again on the way if it is done one after the other, and is called at
most once if it is done at once. -/
theorem bulk_registration_agrees_with_one_by_one [DecidableEq κ] (hg : c.Guarded hook)
    (hstop : ∀ k, ((c.component k).request .stop).Leads (c.Move hook)) (hw : c.Willing hook willing) {s : Stage σ}
    (hs : c.Amid hook s.world) (hwilling : willing s.world) {ks : List κ} (hks : ks ≠ []) :
    (∃ added news t u, c.addAll ks s = .ok (.ok added) t ∧ ks.mapM c.add s = .ok (news.map .ok) u ∧
      c.Alike hook s.world added news t.world u.world) ∧
    (∃ removed gone t u, c.removeAll ks s = .ok (.ok removed) t ∧ ks.mapM c.remove s = .ok (gone.map .ok) u ∧
      c.Alike hook s.world removed gone t.world u.world) := by
  have hready : c.Ready hook willing s.world := ⟨hs.agrees hg hstop, hwilling⟩
  constructor
  · refine Ready.alike (fun k s hs => ?_) hks hready (hready.settles hg hw (addAll_books hready.agrees.count hg.seat ks))
    obtain ⟨t, ht, hsettled, -⟩ := hs.settles hg hw (add_books hs.agrees.count hg.seat k)
    exact ⟨t, ht, hsettled⟩
  · refine Ready.alike (fun k s hs => ?_) hks hready (hready.settles hg hw (removeAll_books hready.agrees.count hg.seat ks))
    obtain ⟨t, ht, hsettled, -⟩ := hs.settles hg hw (remove_books hs.agrees.count hg.seat k)
    exact ⟨t, ht, hsettled⟩

namespace Rehearsal

/-- Components 1 and 2 are registered, and the hook has fired. -/
def spent : Stage World :=
  after [.enrol (.addAll [1, 2]), .fire] ⟨([], {}, {}), []⟩

/-- A ledger without a refusal to come refuses nothing. -/
theorem willing_ledger :
    coordinator.Willing HookLedger.processHook fun w => w.2.1.installRefusals = [] ∧ w.2.1.uninstallRefusals = [] where
  accepts call s hs _ := by
    obtain ⟨⟨calls, ⟨armed, installs, uninstalls, doubles, danglings, refusals, refusals'⟩, r⟩, journal⟩ := s
    obtain ⟨rfl, rfl⟩ := hs.willing
    cases call <;> exact ⟨_, rfl, rfl, rfl⟩
  apart _ _ hw := hw

/-- What can be read of the answer of operations that returned, and the calls of the hook up to then. -/
def returned {α β : Type} (read : α → β) : EStateM.Result Interruption (Stage World) α → Option (β × List HookCall)
  | .ok a t => some (read a, t.world.1)
  | .error _ _ => none

/-- Behind the firing component 1 is taken out, an unregistered one, component 2, and component 1 again. In turn this installs the
hook for component 2, and removes it; at once it calls nothing. -/
theorem bulk_registration_agrees_with_one_by_one_rehearsal :
    ∃ t u, coordinator.removeAll [1, 9, 2, 1] spent = .ok (.ok 2) t ∧
      [1, 9, 2, 1].mapM coordinator.remove spent = .ok [.ok true, .ok false, .ok true, .ok false] u ∧
      coordinator.Alike HookLedger.processHook spent.world 2 [true, false, true, false] t.world u.world ∧
      t.world.1 = [.install false] ∧ u.world.1 = [.install false, .install false, .uninstall true] := by
  have hamid : coordinator.Amid HookLedger.processHook spent.world := .between (Reachable.after _ (.fresh rfl rfl))
  have hks : [1, 9, 2, 1] ≠ [] := List.cons_ne_nil _ _
  obtain ⟨-, removed, gone, t, u, hremoved, hgone, halike⟩ :=
    bulk_registration_agrees_with_one_by_one guarded stop_leads willing_ledger hamid ⟨rfl, rfl⟩ hks
  have hall : returned Except.toOption (coordinator.removeAll [1, 9, 2, 1] spent) = some (some 2, [.install false]) := by
    decide +kernel
  have heach : returned (List.map Except.toOption) ([1, 9, 2, 1].mapM coordinator.remove spent) =
      some ([some true, some false, some true, some false], [.install false, .install false, .uninstall true]) := by
    decide +kernel
  rw [hremoved] at hall
  rw [hgone] at heach
  obtain ⟨hremoved', ht⟩ := Prod.mk.inj (Option.some.inj hall)
  obtain ⟨hgone', hu⟩ := Prod.mk.inj (Option.some.inj heach)
  obtain rfl : removed = 2 := Option.some.inj hremoved'
  rw [List.map_map] at hgone'
  obtain rfl : gone = [true, false, true, false] := List.map_injective_iff.2 (fun _ _ => Option.some.inj) hgone'
  exact ⟨t, u, hremoved, hgone, halike, ht, hu⟩

end Rehearsal

end Coordinator

end Supervision

import Supervision.Proofs.Coordinator

/-!
# Books, flag and hook of a coordinator

Through any run of a coordinator its count of registrations, its flag and its exit hook stay in agreement
(`Coordinator.Agrees`), however the hook refuses, however the components end when they are stopped, and whatever registrations
they make meanwhile. Each operation keeps the agreement; the one that needs care is a firing, between whose first step and the
second the hook is disarmed and the flag does not say so.
-/

namespace Supervision

variable {σ κ : Type}

namespace Coordinator

variable {c : Coordinator σ κ} {hook : ProcessHook σ}

/-- Books that count their registrations agree with the hook, as long as the flag is left as it is. -/
theorem Agrees.booked (hg : c.Guarded hook) {w : σ} (h : c.Agrees hook w) {r : Registration κ}
    (hcount : r.count = r.registry.size) (hflag : r.installed = (c.seat.get w).installed) :
    c.Agrees hook (c.seat.set r w) := by
  have hstate := hg.honest.apart r w
  have hget := hg.seat.get_set r w
  exact ⟨by rw [hget, hcount], by rw [hget, hflag, hstate, h.flag], by rw [hstate]; exact h.careful⟩

/-- Where a firing has consumed the action of the hook and marked it as not installed, flag and hook agree again. -/
theorem Agrees.of_consumed {w w' : σ} (h : c.Agrees hook w)
    (hseat : c.seat.get w' = { c.seat.get w with installed := false })
    (hstate : hook.state w' = { hook.state w with armed := false }) : c.Agrees hook w' :=
  ⟨by rw [hseat]; exact h.count, by rw [hseat, hstate], by rw [hstate]; exact h.careful⟩

/-- A component that does no more to the coordinator than a component may, keeps the agreement. -/
theorem Agrees.of_move [DecidableEq κ] (hkeeps : ∀ e, (c.enrol e).Keeps (c.Agrees hook)) {w w' : σ}
    (hm : c.Move hook w w') (h : c.Agrees hook w) : c.Agrees hook w' := by
  induction hm with
  | refl => exact h
  | tail _ step ih =>
    cases step with
    | enrol e s => exact hkeeps e s ih
    | elsewhere hseat hstate => exact ⟨by rw [hseat, ih.count], by rw [hseat, hstate, ih.flag], by rw [hstate]; exact ih.careful⟩

variable [DecidableEq κ]

/-- Every registration operation keeps the agreement, whether the hook refuses or not. -/
theorem enrol_keeps (hg : c.Guarded hook) (e : Enrolment κ) : (c.enrol e).Keeps (c.Agrees hook) := by
  intro s hs
  obtain ⟨journal, hleaves⟩ := enrol_leaves hg.seat e hs.count
  rw [hleaves]
  exact sync_keeps hg _ (hs.booked hg rfl rfl)

/-- An exit pass keeps the agreement if the components do no more to the coordinator than they may. -/
theorem runExitAction_keeps (hg : c.Guarded hook)
    (hstop : ∀ k, ((c.component k).request .stop).Leads (c.Move hook)) :
    c.runExitAction.Keeps (c.Agrees hook) := by
  have hpass : (c.manager.request .stop).Keeps (c.Agrees hook) :=
    Manager.request_keeps fun k => (hstop k).keeps fun _ _ hm hw => hw.of_move (enrol_keeps hg) hm
  have hsize : c.manager.size.Keeps (c.Agrees hook) := fun _ hs => hs
  unfold runExitAction
  refine hsize.bind fun _ => (Act.Keeps.log _).bind fun _ => hpass.bind fun reply => ?_
  cases reply with
  | ok => exact Act.Keeps.pure _
  | error e => exact Act.Keeps.log _

/-- A firing keeps the agreement: the flag follows the hook before the pass begins. -/
theorem fire_keeps (hg : c.Guarded hook) (hstop : ∀ k, ((c.component k).request .stop).Leads (c.Move hook)) :
    (hook.fire c.exitAction).Keeps (c.Agrees hook) := by
  intro s hs
  by_cases harmed : (hook.state s.world).armed = true
  · obtain ⟨t, ht, hstate, hseat⟩ := hg.honest.consume s
    have hmarked : c.Agrees hook (c.seat.set { c.seat.get t.world with installed := false } t.world) :=
      hs.of_consumed (by rw [hg.seat.get_set, hseat]) (by rw [hg.honest.apart, hstate])
    rw [Act.leaves_congr (fire_armed harmed ht)]
    exact runExitAction_keeps hg hstop _ hmarked
  · rw [Act.leaves_of_ok (fire_unarmed harmed)]
    exact hs

/-- Books, flag and hook agree in every world of a run. -/
theorem Reachable.agrees (hg : c.Guarded hook) (hstop : ∀ k, ((c.component k).request .stop).Leads (c.Move hook)) {w : σ}
    (hw : c.Reachable hook w) : c.Agrees hook w := by
  induction hw with
  | fresh hseat hstate => exact ⟨by rw [hseat]; rfl, by rw [hseat, hstate], by rw [hstate]; exact nofun⟩
  | elsewhere _ hseat hstate ih =>
    exact ⟨by rw [hseat, ih.count], by rw [hseat, hstate, ih.flag], by rw [hstate]; exact ih.careful⟩
  | undergo h _ ih =>
    cases h with
    | enrol e => exact enrol_keeps hg e _ ih
    | exitPass => exact runExitAction_keeps hg hstop _ ih
    | fire => exact fire_keeps hg hstop _ ih

/-- One thing after the other makes a run. -/
theorem Reachable.after (happenings : List (Happening κ)) {s : Stage σ} (hs : c.Reachable hook s.world) :
    c.Reachable hook (happenings.foldl (fun s h => (c.undergo hook h).leaves s) s).world := by
  induction happenings generalizing s with
  | nil => exact hs
  | cons h rest ih => exact ih (hs.undergo h)

/-- Through every run of a coordinator whose exit hook keeps its word, whatever the hook refuses and however the components end
when they are stopped: the coordinator counts as many components as its manager holds, no removal takes more from the count
than is there, the hook is taken to be installed exactly when it is armed, and it was never installed while armed nor
uninstalled while not. -/
theorem books_flag_and_hook_agree (hg : c.Guarded hook)
    (hstop : ∀ k, ((c.component k).request .stop).Leads (c.Move hook)) {s : Stage σ} (hs : c.Reachable hook s.world) :
    (∃ n, c.registered s = .ok n s ∧ c.manager.size s = .ok n s) ∧
    (∀ ks n t, tally c.manager.remove ks s = .ok n t → n ≤ (c.seat.get s.world).count) ∧
    (c.isHookInstalled s = .ok true s ↔ (hook.state s.world).armed = true) ∧
    HookCall.install true ∉ (hook.state s.world).calls ∧ HookCall.uninstall false ∉ (hook.state s.world).calls := by
  have h := hs.agrees hg hstop
  refine ⟨⟨_, rfl, ?_⟩, ?_, ?_, fun hm => ?_, fun hm => ?_⟩
  · rw [h.count]
    rfl
  · intro ks n t ht
    have hm := hg.seat.comp (lawful_registryPart (κ := κ))
    obtain ⟨j, hj⟩ := tally_apply hm c.manager.remove .erase Registry.contains (c.manager.remove_apply hm) ks s
    have hsize := (c.seat.get s.world).registry.size_foldl_erase ks
    rw [hj] at ht
    cases ht
    rw [h.count, ← hsize]
    exact Nat.le_add_left _ _
  · have hread : c.isHookInstalled s = .ok (hook.state s.world).armed s := by
      rw [← h.flag]
      rfl
    rw [hread]
    exact ⟨fun e => by injection e, fun e => by rw [e]⟩
  · exact absurd (h.careful _ hm) (by simp [HookCall.Careful])
  · exact absurd (h.careful _ hm) (by simp [HookCall.Careful])

/-! ## A rehearsal -/

namespace Rehearsal

/-- The world of the rehearsal: a ledger with the record of its calls, and what the coordinator keeps. -/
abbrev World := List HookCall × HookLedger × Registration Nat

/-- The coordinator of components that behave so when they are stopped. -/
def staffed (stop : Nat → Act World (Reply Unit)) : Coordinator World Nat where
  seat := Part.snd.comp Part.snd
  hook := HookLedger.processHook.toExitHook
  component k := ⟨"", fun _ => stop k⟩

/-- When it is stopped, component 0 registers component 7 and then panics, and every other one fails. -/
def stop : Nat → Act World (Reply Unit)
  | 0 => do
    (staffed fun _ => return .ok ()).enrol (.add 7)
    throw (.panic "")
  | _ => return .error (.io "")

/-- The coordinator of the rehearsal. -/
def coordinator : Coordinator World Nat :=
  staffed stop

/-- One thing after the other, each from the stage that the one before it left. -/
def after (happenings : List (Happening Nat)) (s : Stage World) : Stage World :=
  happenings.foldl (fun s h => (coordinator.undergo HookLedger.processHook h).leaves s) s

/-- The first installation is refused. A second registration installs the hook, which then fires: component 0 registers
another one meanwhile, and its panic ends the pass. A removal and its repetition close the rehearsal. -/
def final : Stage World :=
  after [.enrol (.add 0), .enrol (.addAll [1, 0, 1]), .fire, .enrol (.remove 1), .enrol (.remove 1)]
    ⟨([], { installRefusals := [""] }, {}), []⟩

theorem guarded : coordinator.Guarded HookLedger.processHook where
  seat := Part.lawful_snd.comp Part.lawful_snd
  hook_eq := rfl
  honest := HookLedger.honest_processHook

theorem stop_leads (k : Nat) : ((coordinator.component k).request .stop).Leads (coordinator.Move HookLedger.processHook) := by
  intro s
  cases k with
  | zero =>
    have hleaves : ((coordinator.component 0).request .stop).leaves s = (coordinator.enrol (.add 7)).leaves s :=
      Act.leaves_bind_throw _ _ s
    rw [hleaves]
    exact Relation.ReflTransGen.single (Step.enrol (.add 7) s)
  | succ k => exact Relation.ReflTransGen.refl

end Rehearsal

/-- `books_flag_and_hook_agree` at the end of the rehearsal: components 0 and 7 are registered, and the hook that the unwound
firing consumed is armed again. -/
theorem books_flag_and_hook_agree_rehearsal :
    Rehearsal.coordinator.registered Rehearsal.final = .ok 2 Rehearsal.final ∧
    Rehearsal.coordinator.manager.size Rehearsal.final = .ok 2 Rehearsal.final ∧
    Rehearsal.coordinator.isHookInstalled Rehearsal.final = .ok true Rehearsal.final ∧
    HookCall.install true ∉ (HookLedger.processHook.state Rehearsal.final.world).calls ∧
    HookCall.uninstall false ∉ (HookLedger.processHook.state Rehearsal.final.world).calls := by
  have hs : Rehearsal.coordinator.Reachable HookLedger.processHook Rehearsal.final.world :=
    Reachable.after _ (.fresh rfl rfl)
  obtain ⟨⟨n, hn, hm⟩, -, hf, hi, hu⟩ := books_flag_and_hook_agree Rehearsal.guarded Rehearsal.stop_leads hs
  have h2 : n = 2 := by
    injection hn with e
    rw [← e]
    decide +kernel
  subst h2
  exact ⟨hn, hm, hf.2 (by decide +kernel), hi, hu⟩

end Coordinator

end Supervision

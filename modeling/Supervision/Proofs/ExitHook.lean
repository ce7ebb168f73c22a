import Supervision.HookLedger
import Supervision.Proofs.Act

/-!
# Exit hooks that keep their word

A `ProcessHook` is an exit hook together with the side of the process: what can be seen of the hook, and how firing consumes
its action. `ProcessHook.Honest` is the contract of such a hook: a call that answers well takes effect, a refused one changes
nothing, and neither reaches what its owner keeps. The record of calls need not be the hook's own: `ExitHook.watched` adds one
to any hook.
-/

namespace Supervision

variable {σ τ : Type}

/-- A call that the owner of an exit hook makes, with whether the hook is armed when it comes. -/
inductive HookCall where
  | install (armed : Bool)
  | uninstall (armed : Bool)
deriving DecidableEq, Repr

/-- A call of a careful owner: it installs no armed hook and uninstalls no other. -/
def HookCall.Careful : HookCall → Prop
  | install armed => armed = false
  | uninstall armed => armed = true

/-- What can be seen of an exit hook: whether it is armed, and the calls made of it so far, oldest first. -/
structure HookState where
  armed : Bool := false
  calls : List HookCall := []

namespace HookState

/-- An exit hook after an installation that was answered so. -/
def installed (state : HookState) (reply : Reply Unit) : HookState where
  armed := match reply with
    | .ok () => true
    | .error _ => state.armed
  calls := state.calls ++ [.install state.armed]

/-- An exit hook after a removal that was answered so. -/
def uninstalled (state : HookState) (reply : Reply Unit) : HookState where
  armed := match reply with
    | .ok () => false
    | .error _ => state.armed
  calls := state.calls ++ [.uninstall state.armed]

end HookState

/-- An exit hook with the process that fires it. -/
structure ProcessHook (σ : Type) extends ExitHook σ where
  /-- What can be seen of the hook. -/
  state : σ → HookState
  /-- Takes the action of an armed hook away, as firing does before it runs the action. -/
  consume : Act σ Unit

namespace ProcessHook

/-- Fires the hook: the action of an armed one is consumed, and then run. -/
def fire (hook : ProcessHook σ) (action : Act σ Unit) : Act σ Unit := do
  if (hook.state (← Act.world)).armed then
    hook.consume
    action

/-- The contract of an exit hook whose owner keeps something at a place. Refusals are as they please. -/
structure Honest (hook : ProcessHook σ) (seat : Part σ τ) : Prop where
  install : ∀ s, ∃ reply t, hook.install s = .ok reply t ∧
    hook.state t.world = (hook.state s.world).installed reply ∧ seat.get t.world = seat.get s.world
  uninstall : ∀ s, ∃ reply t, hook.uninstall s = .ok reply t ∧
    hook.state t.world = (hook.state s.world).uninstalled reply ∧ seat.get t.world = seat.get s.world
  consume : ∀ s, ∃ t, hook.consume s = .ok () t ∧
    hook.state t.world = { hook.state s.world with armed := false } ∧ seat.get t.world = seat.get s.world
  /-- What the owner keeps is no part of the hook. -/
  apart : ∀ x w, hook.state (seat.set x w) = hook.state w

/-- A hook that leaves a place alone leaves alone what is in it. -/
theorem Honest.comp {υ : Type} {hook : ProcessHook σ} {seat : Part σ τ} (h : hook.Honest seat) (part : Part τ υ) :
    hook.Honest (seat.comp part) where
  install s :=
    let ⟨reply, t, ht, hstate, hseat⟩ := h.install s
    ⟨reply, t, ht, hstate, congrArg part.get hseat⟩
  uninstall s :=
    let ⟨reply, t, ht, hstate, hseat⟩ := h.uninstall s
    ⟨reply, t, ht, hstate, congrArg part.get hseat⟩
  consume s :=
    let ⟨t, ht, hstate, hseat⟩ := h.consume s
    ⟨t, ht, hstate, congrArg part.get hseat⟩
  apart x w := h.apart (part.set x (seat.get w)) w

end ProcessHook

/-- An exit hook in a world that records the calls made of it. -/
def ExitHook.watched (hook : ExitHook σ) (armed : σ → Bool) (consume : Act σ Unit) : ProcessHook (List HookCall × σ) where
  install := do
    let before := armed (← Act.world).2
    Part.fst.modify (· ++ [.install before])
    Part.snd.focus hook.install
  uninstall := do
    let before := armed (← Act.world).2
    Part.fst.modify (· ++ [.uninstall before])
    Part.snd.focus hook.uninstall
  state w := ⟨armed w.2, w.1⟩
  consume := Part.snd.focus consume

namespace ExitHook

variable {hook : ExitHook σ} {armed : σ → Bool} {consume : Act σ Unit}

/-- A watched hook answers an installation as the hook itself does, and the call is on record. -/
theorem watched_install {s : Stage (List HookCall × σ)} {reply : Reply Unit} {t : Stage σ}
    (h : hook.install ⟨s.world.2, s.journal⟩ = .ok reply t) :
    (hook.watched armed consume).install s =
      .ok reply ⟨(s.world.1 ++ [.install (armed s.world.2)], t.world), t.journal⟩ := by
  simp only [watched, Act.bind_apply, Act.world_apply, Part.modify_apply]
  exact Part.focus_ok h

/-- A watched hook answers a removal as the hook itself does, and the call is on record. -/
theorem watched_uninstall {s : Stage (List HookCall × σ)} {reply : Reply Unit} {t : Stage σ}
    (h : hook.uninstall ⟨s.world.2, s.journal⟩ = .ok reply t) :
    (hook.watched armed consume).uninstall s =
      .ok reply ⟨(s.world.1 ++ [.uninstall (armed s.world.2)], t.world), t.journal⟩ := by
  simp only [watched, Act.bind_apply, Act.world_apply, Part.modify_apply]
  exact Part.focus_ok h

end ExitHook

namespace HookLedger

/-- A call of the ledger answers and leaves what the ledger says. -/
theorem act_apply (seat : Part σ HookLedger) (call : HookLedger → Reply Unit × HookLedger) (s : Stage σ) :
    act seat call s =
      .ok (call (seat.get s.world)).1 ⟨seat.set (call (seat.get s.world)).2 s.world, s.journal⟩ := by
  simp [act, Act.bind_apply, Act.map_apply]

/-- An installation arms the ledger, or is refused and changes nothing. -/
theorem armed_install (ledger : HookLedger) (calls : List HookCall) :
    (⟨ledger.install.2.armed, calls ++ [.install ledger.armed]⟩ : HookState) =
      HookState.installed ⟨ledger.armed, calls⟩ ledger.install.1 := by
  cases h : ledger.installRefusals <;> simp [install, HookState.installed, h]

/-- A removal disarms the ledger, or is refused and changes nothing. -/
theorem armed_uninstall (ledger : HookLedger) (calls : List HookCall) :
    (⟨ledger.uninstall.2.armed, calls ++ [.uninstall ledger.armed]⟩ : HookState) =
      HookState.uninstalled ⟨ledger.armed, calls⟩ ledger.uninstall.1 := by
  cases h : ledger.uninstallRefusals <;> simp [uninstall, HookState.uninstalled, h]

/-- The exit hook on paper with a record of its calls, beside something that its owner keeps. -/
def processHook : ProcessHook (List HookCall × HookLedger × τ) :=
  (exitHook Part.fst).watched (fun w => w.1.armed) (Part.fst.modify fun ledger => { ledger with armed := false })

/-- The exit hook on paper keeps its word. -/
theorem honest_processHook : (processHook (τ := τ)).Honest (Part.snd.comp Part.snd) where
  install _ := ⟨_, _, ExitHook.watched_install (act_apply _ _ _), armed_install _ _, rfl⟩
  uninstall _ := ⟨_, _, ExitHook.watched_uninstall (act_apply _ _ _), armed_uninstall _ _, rfl⟩
  consume _ := ⟨_, rfl, rfl, rfl⟩
  apart _ _ := rfl

end HookLedger

end Supervision

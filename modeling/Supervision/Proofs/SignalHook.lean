import Supervision.Proofs.Act
import Supervision.SignalHook

/-!
# The listener of a signal hook

What a signal comes to, for any listener: an armed hook is disarmed before its action runs, and one that is not armed has the
process end. A listener whose handling of a signal returns goes on listening.
-/

namespace Supervision

variable {σ α : Type}

namespace SignalHook

variable {hook : SignalHook σ α} {s : Stage σ}

/-- With a listener registered, to install an action is to put it in the place of any other one. -/
theorem install_apply (hregistered : (hook.seat.get s.world).listening ≠ .absent) (action : α) :
    hook.install action s =
      .ok (.ok ()) ⟨hook.seat.set { hook.seat.get s.world with action := some action } s.world, s.journal⟩ := by
  have hlistener : hook.ensureListener s = .ok (.ok ()) s := by
    rw [ensureListener, Act.bind_ok (Part.read_apply _ _), if_neg hregistered]
    rfl
  rw [install, Act.bind_ok hlistener]
  rfl

theorem uninstall_apply (hook : SignalHook σ α) (s : Stage σ) :
    hook.uninstall s = .ok (.ok ()) ⟨hook.seat.set { hook.seat.get s.world with action := none } s.world, s.journal⟩ :=
  rfl

theorem isArmed_apply (hook : SignalHook σ α) (s : Stage σ) :
    hook.isArmed s = .ok (hook.seat.get s.world).action.isSome s :=
  rfl

end SignalHook

namespace SignalListener

variable {listener : SignalListener σ α} {signal : TerminationSignal} {s t : Stage σ}

/-- What the listener does behind an action that has returned. -/
def conclude (listener : SignalListener σ α) : Act σ Unit :=
  if listener.shutdown.exitProcess then do
    Act.log (.exitAfterHook listener.shutdown.exitCode)
    listener.exitProcess listener.shutdown.exitCode
  else Act.log .keepsRunning

/-- A signal that finds the hook armed disarms it and runs its action; only then may the process end. -/
theorem handle_armed {action : α} (harmed : (listener.hook.seat.get s.world).action = some action)
    (hrun : listener.run action ⟨listener.hook.seat.set { listener.hook.seat.get s.world with action := none } s.world,
      s.journal ++ [.signalHandled signal]⟩ = .ok () t) :
    listener.handle signal s = listener.conclude t := by
  rw [handle, Act.bind_ok (Part.read_apply _ _), Act.bind_ok (Part.modify_apply _ _ _)]
  simp only [harmed]
  rw [Act.bind_ok (Act.log_apply _ _)]
  exact Act.bind_ok hrun

/-- A signal whose action is interrupted is interrupted, with the hook disarmed. -/
theorem handle_interrupted {action : α} {i : Interruption} (harmed : (listener.hook.seat.get s.world).action = some action)
    (hrun : listener.run action ⟨listener.hook.seat.set { listener.hook.seat.get s.world with action := none } s.world,
      s.journal ++ [.signalHandled signal]⟩ = .error i t) :
    listener.handle signal s = .error i t := by
  rw [handle, Act.bind_ok (Part.read_apply _ _), Act.bind_ok (Part.modify_apply _ _ _)]
  simp only [harmed]
  rw [Act.bind_ok (Act.log_apply _ _)]
  exact Act.bind_error hrun

/-- A signal that finds the hook not armed has the process end with the signal's own code. -/
theorem handle_unarmed (hl : listener.hook.seat.Lawful) (hunarmed : (listener.hook.seat.get s.world).action = none) :
    listener.handle signal s =
      listener.exitProcess signal.defaultExitCode (s.tell [.signalUnhandled signal signal.defaultExitCode]) := by
  have hsame : listener.hook.seat.set { listener.hook.seat.get s.world with action := none } s.world = s.world := by
    rw [← hunarmed]
    exact hl.set_get s.world
  rw [handle, Act.bind_ok (Part.read_apply _ _), Act.bind_ok (Part.modify_apply _ _ _), hsame]
  simp only [hunarmed]
  rw [Act.bind_ok (Act.log_apply _ _)]
  rfl

/-- An active listener handles a signal, and goes on when it has returned from that. -/
theorem receive_handled (hactive : (listener.hook.seat.get s.world).listening = .active)
    (h : listener.handle signal s = .ok () t) : listener.receive signal s = .ok () t := by
  have hcaught : Act.catchPanic (listener.handle signal) s = .ok (.ok ()) t := by rw [Act.catchPanic, h]
  rw [receive, Act.bind_ok (Part.read_apply _ _), if_pos hactive, Act.bind_ok hcaught]
  rfl

/-- A listener that is gone, or was never there, does nothing about a signal. -/
theorem receive_unheard (hgone : (listener.hook.seat.get s.world).listening ≠ .active) :
    listener.receive signal s = .ok () s := by
  rw [receive, Act.bind_ok (Part.read_apply _ _), if_neg hgone]
  rfl

/-- A panic on a signal is the end of the listener. -/
theorem receive_panicked {message : String} (hactive : (listener.hook.seat.get s.world).listening = .active)
    (h : listener.handle signal s = .error (.panic message) t) :
    listener.receive signal s =
      .ok () ⟨listener.hook.seat.set { listener.hook.seat.get t.world with listening := .ended } t.world, t.journal⟩ := by
  have hcaught : Act.catchPanic (listener.handle signal) s = .ok (.error message) t := by rw [Act.catchPanic, h]
  rw [receive, Act.bind_ok (Part.read_apply _ _), if_pos hactive, Act.bind_ok hcaught]
  rfl

/-- What a signal leaves that is handled without a panic, even if the process ends on it. -/
theorem receive_leaves (hactive : (listener.hook.seat.get s.world).listening = .active)
    (hquiet : ∀ message t, listener.handle signal s ≠ .error (.panic message) t) :
    (listener.receive signal).leaves s = (listener.handle signal).leaves s := by
  cases h : listener.handle signal s with
  | ok _ t => rw [Act.leaves_of_ok (receive_handled hactive h), Act.leaves_of_ok h]
  | error i t =>
    have hcaught : Act.catchPanic (listener.handle signal) s = .error i t := by
      rw [Act.catchPanic, h]
      cases i with
      | panic message => exact absurd h (hquiet message t)
      | _ => rfl
    have hreceive : listener.receive signal s = .error i t := by
      rw [receive, Act.bind_ok (Part.read_apply _ _), if_pos hactive, Act.bind_error hcaught]
    rw [Act.leaves_of_error hreceive, Act.leaves_of_error h]

end SignalListener

end Supervision

import Supervision.Proofs.Recording
import Supervision.Proofs.SignalHook

/-!
# Signal hooks on record

An action of a signal hook may arm or disarm that very hook. An `Errand` is what such an action does, step by step, and a
`SignalPost` is a signal hook whose actions are errands, with its listener. Orders to a post are the installations and
uninstallations of its owner, and the signals.

The record of a post has a `SignalDeed` for whatever happens to its hook. It is kept beside the world, and the orders come to the
same without it (`SignalPost.order_mirrors`).
-/

namespace Supervision

variable {σ α : Type}

/-- What an action does. What comes next may depend on the answer to each step. -/
inductive Errand (hook : SignalHook σ α) : Type 1 where
  | done
  /-- Anything that may look at the arming of the hook, but leaves it alone. -/
  | aside {β : Type} (x : Act σ β) (apart : x.Leads fun w w' => hook.seat.get w' = hook.seat.get w) (next : β → Errand hook)
  | install (action : α) (next : Reply Unit → Errand hook)
  | uninstall (next : Reply Unit → Errand hook)

/-- A signal hook whose actions are errands. What ends the process leaves the hook alone, and does not panic. -/
structure SignalPost (σ α : Type) where
  hook : SignalHook σ α
  lawful : hook.seat.Lawful
  shutdown : ShutdownConfig
  errand : α → Errand hook
  exitProcess : Int32 → Act σ Unit
  exit_apart : ∀ code, (exitProcess code).Leads fun w w' => hook.seat.get w' = hook.seat.get w
  exit_quiet : ∀ code s message t, exitProcess code s ≠ .error (.panic message) t

/-- What comes to a post from outside. -/
inductive SignalOrder (α : Type) where
  | install (action : α)
  | uninstall
  | signal (signal : TerminationSignal)

/-- What happens to a signal hook. -/
inductive SignalDeed (α : Type) where
  | installed (action : α)
  | uninstalled
  /-- An action begins, while the hook is armed or not. -/
  | began (action : α) (armed : Bool)
  | returned (action : α)
  | panicked (action : α)
  /-- The process is told to end with a code. -/
  | exited (code : Int32)

/-- Carries an errand out. -/
def Errand.run {hook : SignalHook σ α} : Errand hook → Act σ Unit
  | done => return ()
  | aside x _ next => do (next (← x)).run
  | install action next => do (next (← hook.install action)).run
  | uninstall next => do (next (← hook.uninstall)).run

namespace SignalPost

/-- The listener of a post. -/
def listener (post : SignalPost σ α) : SignalListener σ α where
  hook := post.hook
  shutdown := post.shutdown
  run action := (post.errand action).run
  exitProcess := post.exitProcess

/-- Carries an order out. -/
def order (post : SignalPost σ α) : SignalOrder α → Act σ Unit
  | .install action => discard (post.hook.install action)
  | .uninstall => discard post.hook.uninstall
  | .signal signal => post.listener.receive signal

end SignalPost

/-! ## The record -/

/-- How an action has ended. -/
def SignalDeed.ended (action : α) : Except String Unit → SignalDeed α
  | .ok _ => .returned action
  | .error _ => .panicked action

/-- Writes a deed to the record. -/
def SignalDeed.note (deed : SignalDeed α) : Act (List (SignalDeed α) × σ) Unit :=
  Part.fst.modify (· ++ [deed])

namespace SignalHook

/-- A hook in the world with a record beside it. -/
def beside {ρ : Type} (hook : SignalHook σ α) : SignalHook (ρ × σ) α where
  seat := Part.snd.comp hook.seat
  register := Part.snd.focus hook.register

/-- An installation, which is on record if it was not refused. -/
def installNoted (hook : SignalHook σ α) (action : α) : Act (List (SignalDeed α) × σ) (Reply Unit) := do
  let reply ← Part.snd.focus (hook.install action)
  Part.fst.modify fun record =>
    match reply with
    | .ok _ => record ++ [.installed action]
    | .error _ => record
  return reply

/-- An uninstallation on record. -/
def uninstallNoted (hook : SignalHook σ α) : Act (List (SignalDeed α) × σ) (Reply Unit) := do
  let reply ← Part.snd.focus hook.uninstall
  Part.fst.modify (· ++ [.uninstalled])
  return reply

end SignalHook

/-- Carries an errand out, with what it does to the hook on record. -/
def Errand.runNoted {hook : SignalHook σ α} : Errand hook → Act (List (SignalDeed α) × σ) Unit
  | done => return ()
  | aside x _ next => do (next (← Part.snd.focus x)).runNoted
  | install action next => do (next (← hook.installNoted action)).runNoted
  | uninstall next => do (next (← hook.uninstallNoted)).runNoted

namespace SignalPost

/-- The listener of a post with a record of how actions begin and end, and of the codes the process is told to end with. -/
def listenerNoted (post : SignalPost σ α) : SignalListener (List (SignalDeed α) × σ) α where
  hook := post.hook.beside
  shutdown := post.shutdown
  run action := do
    (SignalDeed.began action (← post.hook.beside.isArmed)).note
    Act.noting (fun ending record => record ++ [.ended action ending]) (post.errand action).runNoted
  exitProcess code := do
    (SignalDeed.exited code).note
    Part.snd.focus (post.exitProcess code)

/-- Carries an order out, with what happens on record. -/
def orderNoted (post : SignalPost σ α) : SignalOrder α → Act (List (SignalDeed α) × σ) Unit
  | .install action => discard (post.hook.installNoted action)
  | .uninstall => discard post.hook.uninstallNoted
  | .signal signal => post.listenerNoted.receive signal

end SignalPost

/-! ## The record changes nothing -/

namespace SignalHook

theorem installNoted_mirrors (hook : SignalHook σ α) (action : α) :
    Act.Mirrors Prod.snd (hook.installNoted action) (hook.install action) :=
  Act.mirrors_noted (hook.install action) _

theorem uninstallNoted_mirrors (hook : SignalHook σ α) : Act.Mirrors Prod.snd hook.uninstallNoted hook.uninstall :=
  Act.mirrors_noted hook.uninstall fun _ record => record ++ [.uninstalled]

end SignalHook

/-- An errand on record does what it does without it. -/
theorem Errand.runNoted_mirrors {hook : SignalHook σ α} (e : Errand hook) : Act.Mirrors Prod.snd e.runNoted e.run := by
  induction e with
  | done => exact .pure _
  | aside x _ _ ih => exact (Act.mirrors_focus x).bind ih
  | install action _ ih => exact (hook.installNoted_mirrors action).bind ih
  | uninstall _ ih => exact hook.uninstallNoted_mirrors.bind ih

namespace SignalPost

variable (post : SignalPost σ α)

theorem run_mirrors (action : α) : Act.Mirrors Prod.snd (post.listenerNoted.run action) (post.listener.run action) := by
  intro s
  have hrun : Act.Mirrors Prod.snd (Act.noting (fun ending record => record ++ [SignalDeed.ended action ending]) _) _ :=
    (post.errand action).runNoted_mirrors.noting
  exact hrun ⟨(s.world.1 ++ [.began action (post.hook.seat.get s.world.2).action.isSome], s.world.2), s.journal⟩

theorem exitProcess_mirrors (code : Int32) :
    Act.Mirrors Prod.snd (post.listenerNoted.exitProcess code) (post.listener.exitProcess code) := by
  intro s
  have hexit : Act.Mirrors (Prod.snd : List (SignalDeed α) × σ → σ) (Part.snd.focus (post.exitProcess code)) _ :=
    Act.mirrors_focus _
  exact hexit ⟨(s.world.1 ++ [.exited code], s.world.2), s.journal⟩

theorem handle_mirrors (signal : TerminationSignal) :
    Act.Mirrors Prod.snd (post.listenerNoted.handle signal) (post.listener.handle signal) := by
  have hseat : Part.Shows (Prod.snd : List (SignalDeed α) × σ → σ) post.listenerNoted.hook.seat post.listener.hook.seat :=
    Part.shows_beside _
  unfold SignalListener.handle
  refine hseat.read.bind fun arming => (hseat.modify _).bind fun _ => ?_
  cases arming.action with
  | none => exact (Act.Mirrors.log _).bind fun _ => post.exitProcess_mirrors _
  | some action =>
    refine (Act.Mirrors.log _).bind fun _ => (post.run_mirrors action).bind fun _ => ?_
    rw [show post.listenerNoted.shutdown = post.listener.shutdown from rfl]
    by_cases hexit : post.listener.shutdown.exitProcess = true
    · rw [if_pos hexit, if_pos hexit]
      exact (Act.Mirrors.log _).bind fun _ => post.exitProcess_mirrors _
    · rw [if_neg hexit, if_neg hexit]
      exact .log _

theorem receive_mirrors (signal : TerminationSignal) :
    Act.Mirrors Prod.snd (post.listenerNoted.receive signal) (post.listener.receive signal) := by
  have hseat : Part.Shows (Prod.snd : List (SignalDeed α) × σ → σ) post.listenerNoted.hook.seat post.listener.hook.seat :=
    Part.shows_beside _
  unfold SignalListener.receive
  refine hseat.read.bind fun arming => ?_
  by_cases hactive : arming.listening = .active
  · rw [if_pos hactive, if_pos hactive]
    refine (post.handle_mirrors signal).catchPanic.bind fun ending => ?_
    cases ending with
    | ok _ => exact .pure _
    | error message => exact hseat.modify _
  · rw [if_neg hactive, if_neg hactive]
    exact .pure _

/-- An order on record comes to what it comes to without it. -/
theorem order_mirrors (order : SignalOrder α) : Act.Mirrors Prod.snd (post.orderNoted order) (post.order order) := by
  cases order with
  | install action => exact (post.hook.installNoted_mirrors action).bind fun _ => .pure _
  | uninstall => exact post.hook.uninstallNoted_mirrors.bind fun _ => .pure _
  | signal signal => exact post.receive_mirrors signal

end SignalPost

/-! ## What goes on record -/

namespace SignalHook

variable {hook : SignalHook σ α} {s : Stage (List (SignalDeed α) × σ)}

/-- With a listener registered, an installation is on record. -/
theorem installNoted_apply (hregistered : (hook.seat.get s.world.2).listening ≠ .absent) (action : α) :
    hook.installNoted action s = .ok (.ok ()) ⟨(s.world.1 ++ [.installed action],
      hook.seat.set { hook.seat.get s.world.2 with action := some action } s.world.2), s.journal⟩ := by
  have hinstall : (Part.snd.focus (hook.install action) : Act (List (SignalDeed α) × σ) _) s = _ :=
    Part.focus_ok (install_apply (s := ⟨s.world.2, s.journal⟩) hregistered action)
  rw [installNoted, Act.bind_ok hinstall]
  rfl

theorem uninstallNoted_apply (hook : SignalHook σ α) (s : Stage (List (SignalDeed α) × σ)) :
    hook.uninstallNoted s = .ok (.ok ()) ⟨(s.world.1 ++ [.uninstalled],
      hook.seat.set { hook.seat.get s.world.2 with action := none } s.world.2), s.journal⟩ :=
  rfl

end SignalHook

namespace SignalPost

/-- How an action ends is on record behind what it did, and that it has begun on a hook that is armed or not before it. -/
theorem run_apply {post : SignalPost σ α} {action : α} {ending : Except String Unit} {s t : Stage (List (SignalDeed α) × σ)}
    (h : Act.catchPanic (post.errand action).runNoted
      ⟨(s.world.1 ++ [.began action (post.hook.seat.get s.world.2).action.isSome], s.world.2), s.journal⟩ = .ok ending t) :
    Act.catchPanic (post.listenerNoted.run action) s =
      .ok ending ⟨(t.world.1 ++ [.ended action ending], t.world.2), t.journal⟩ :=
  Act.catchPanic_noting h

/-- An end of the process is on record, whether it returns or not, and the hook is as it was. -/
theorem exit_leaves (post : SignalPost σ α) (code : Int32) (s : Stage (List (SignalDeed α) × σ)) :
    ∃ w journal, (post.listenerNoted.exitProcess code).leaves s = ⟨(s.world.1 ++ [.exited code], w), journal⟩ ∧
      post.hook.seat.get w = post.hook.seat.get s.world.2 := by
  have hnoted : (post.listenerNoted.exitProcess code).leaves s =
      (Part.snd.focus (post.exitProcess code)).leaves ⟨(s.world.1 ++ [.exited code], s.world.2), s.journal⟩ := rfl
  rw [hnoted, Part.leaves_focus]
  exact ⟨_, _, rfl, post.exit_apart code ⟨s.world.2, s.journal⟩⟩

/-- What ends the process does not panic on record either. -/
theorem exitNoted_quiet (post : SignalPost σ α) (code : Int32) (s : Stage (List (SignalDeed α) × σ)) (message : String)
    (t : Stage (List (SignalDeed α) × σ)) : post.listenerNoted.exitProcess code s ≠ .error (.panic message) t := by
  intro h
  have hexit := post.exitProcess_mirrors code s
  rw [h] at hexit
  exact post.exit_quiet code _ message _ hexit

end SignalPost

end Supervision

import Supervision.Proofs.Signals.Turns

/-!
# Runs of orders to a signal hook

Orders come to a post one after the other, and each takes its turn, so that behind any of them the hook is as its record says
(`SignalPost.afterNoted_kept`). While actions return, every installation comes to at most one beginning of its action, and the
process is told to end as it is configured (`SignalPost.signals_consume_installations`). Where actions may panic, signals act until
the first panic, and come to nothing behind it (`SignalPost.signals_act_until_a_panic`).
-/

namespace Supervision

variable {σ α : Type}

namespace SignalPost

variable {post : SignalPost σ α}

/-- The stage behind orders, one after the other. An order is carried out on whatever the one before it left, also when that was
interrupted: where the process ends, what is said of the orders behind that is said of nothing. -/
def after (post : SignalPost σ α) (orders : List (SignalOrder α)) (s : Stage σ) : Stage σ :=
  orders.foldl (fun s order => (post.order order).leaves s) s

/-- A stage with a record that tells of nothing but the action that is installed on it. -/
def opening (post : SignalPost σ α) (s : Stage σ) : Stage (List (SignalDeed α) × σ) :=
  ⟨((post.hook.seat.get s.world).action.toList.map .installed, s.world), s.journal⟩

/-- The stage behind orders, with a record of them. -/
def afterNoted (post : SignalPost σ α) (orders : List (SignalOrder α)) (s : Stage σ) : Stage (List (SignalDeed α) × σ) :=
  orders.foldl (fun s order => (post.orderNoted order).leaves s) (post.opening s)

/-- What is on record behind orders. -/
def record (post : SignalPost σ α) (orders : List (SignalOrder α)) (s : Stage σ) : List (SignalDeed α) :=
  (post.afterNoted orders s).world.1

variable {s : Stage σ}

theorem after_append (orders : List (SignalOrder α)) (order : SignalOrder α) (s : Stage σ) :
    post.after (orders ++ [order]) s = (post.order order).leaves (post.after orders s) := by
  rw [after, List.foldl_append]
  rfl

theorem afterNoted_append (orders : List (SignalOrder α)) (order : SignalOrder α) (s : Stage σ) :
    post.afterNoted (orders ++ [order]) s = (post.orderNoted order).leaves (post.afterNoted orders s) := by
  rw [afterNoted, List.foldl_append]
  rfl

/-- Orders come to the same with and without a record. -/
theorem afterNoted_seen (post : SignalPost σ α) (orders : List (SignalOrder α)) (s : Stage σ) :
    (post.afterNoted orders s).seen Prod.snd = post.after orders s := by
  induction orders using List.reverseRecOn with
  | nil => rfl
  | append_singleton orders order ih => rw [afterNoted_append, after_append, (post.order_mirrors order).leaves, ih]

/-- The record begins with what is installed. -/
theorem opening_kept (hactive : (post.hook.seat.get s.world).listening = .active) :
    post.Kept (post.opening s).world.1 (post.opening s).world.2 ∧ Consumes (post.opening s).world.1 := by
  have hseat : post.hook.seat.get s.world = ⟨(post.hook.seat.get s.world).action, .active⟩ := by rw [← hactive]
  simp only [opening]
  generalize (post.hook.seat.get s.world).action = installed at hseat ⊢
  cases installed with
  | none => exact ⟨.heard nofun hseat, consumes_nil⟩
  | some action => exact ⟨.heard (by simp [Unbroken]) hseat, consumes_nil.append (by simp)⟩

/-- What is on record behind orders is what the world is like behind them. -/
theorem after_world (post : SignalPost σ α) (orders : List (SignalOrder α)) (s : Stage σ) :
    (post.after orders s).world = (post.afterNoted orders s).world.2 := by
  rw [← post.afterNoted_seen]
  rfl

section Runs

variable (hends : ∀ action, (Act.catchPanic (post.errand action).run).Returns)
variable (hactive : (post.hook.seat.get s.world).listening = .active)

include hends hactive

/-- Behind any orders the hook is as the record says, and actions have begun only as they may. -/
theorem afterNoted_kept (orders : List (SignalOrder α)) :
    post.Kept (post.record orders s) (post.afterNoted orders s).world.2 ∧ Consumes (post.record orders s) := by
  -- from the end, because an order meets what all the orders before it have left
  induction orders using List.reverseRecOn with
  | nil => exact opening_kept hactive
  | append_singleton orders order ih =>
    obtain ⟨deeds, w, journal, hleaves, hturn, hkept⟩ := order_turn hends order ih.1
    rw [record, afterNoted_append, hleaves]
    exact ⟨hkept, hturn.consumes ih.2⟩

/-- Every order takes its turn, whatever orders came before it. -/
theorem record_turn (orders : List (SignalOrder α)) (order : SignalOrder α) :
    ∃ deeds, post.record (orders ++ [order]) s = post.record orders s ++ deeds ∧
      post.Turn (post.record orders s) order deeds := by
  obtain ⟨deeds, w, journal, hleaves, hturn, -⟩ := order_turn hends order (afterNoted_kept hends hactive orders).1
  refine ⟨deeds, ?_, hturn⟩
  rw [record, afterNoted_append, hleaves]
  rfl

/-- What the hook says of itself is what the record says of it. -/
theorem isArmed_after (orders : List (SignalOrder α)) :
    post.hook.isArmed (post.after orders s) = .ok (armedBy (post.record orders s)).isSome (post.after orders s) := by
  rw [SignalHook.isArmed_apply, after_world]
  cases (afterNoted_kept hends hactive orders).1 with
  | heard _ hseat => rw [hseat]
  | unheard _ hseat => rw [hseat]

/-- An action begins on a disarmed hook only, and no change has come between its installation and that. -/
theorem began_after (orders : List (SignalOrder α)) {before : List (SignalDeed α)} {action : α} {armed : Bool}
    (h : before ++ [.began action armed] <+: post.record orders s) :
    armed = false ∧ ∃ earlier between, before = earlier ++ .installed action :: between ∧ ∀ deed ∈ between, ¬ deed.Changes := by
  obtain ⟨hdisarmed, hinstalled⟩ := (afterNoted_kept hends hactive orders).2 before action armed h
  exact ⟨hdisarmed, armedBy_eq_some.1 hinstalled⟩

/-- A signal that finds an action installed, with nobody having panicked before, has it begin and end. -/
theorem signal_finds_action (orders : List (SignalOrder α)) (signal : TerminationSignal) {action : α}
    (hunbroken : Unbroken (post.record orders s)) (harmed : armedBy (post.record orders s) = some action) :
    ∃ calls behind : List (SignalDeed α), (∀ deed ∈ calls, deed.Calls) ∧
      (behind = .returned action :: post.farewell ∨ behind = [.panicked action]) ∧
      post.record (orders ++ [.signal signal]) s = post.record orders s ++ (.began action false :: calls ++ behind) := by
  obtain ⟨_, hrecord, hturn⟩ := record_turn hends hactive orders (.signal signal)
  cases hturn with
  | @returned _ _ calls _ hinstalled hall =>
    cases hinstalled.symm.trans harmed
    exact ⟨calls, _, hall, .inl rfl, hrecord⟩
  | @panicked _ _ calls _ _ _ _ hinstalled hall _ =>
    cases hinstalled.symm.trans harmed
    exact ⟨calls, _, hall, .inr rfl, hrecord⟩
  | unarmed _ _ hunarmed => cases hunarmed.symm.trans harmed
  | unheard _ hbroken => exact absurd hunbroken hbroken

/-- A signal that finds no action installed, with nobody having panicked before, tells the process to end. -/
theorem signal_finds_none (orders : List (SignalOrder α)) (signal : TerminationSignal)
    (hunbroken : Unbroken (post.record orders s)) (hunarmed : armedBy (post.record orders s) = none) :
    post.record (orders ++ [.signal signal]) s = post.record orders s ++ [.exited signal.defaultExitCode] := by
  obtain ⟨_, hrecord, hturn⟩ := record_turn hends hactive orders (.signal signal)
  cases hturn with
  | returned _ _ hinstalled _ => cases hinstalled.symm.trans hunarmed
  | panicked _ _ hinstalled _ _ => cases hinstalled.symm.trans hunarmed
  | unarmed _ _ _ => exact hrecord
  | unheard _ hbroken => exact absurd hunbroken hbroken

/-- A signal behind a panic comes to nothing at all. -/
theorem signal_behind_panic (orders : List (SignalOrder α)) (signal : TerminationSignal)
    (hbroken : ¬ Unbroken (post.record orders s)) :
    post.afterNoted (orders ++ [.signal signal]) s = post.afterNoted orders s := by
  rw [afterNoted_append]
  cases (afterNoted_kept hends hactive orders).1 with
  | heard hunbroken _ => exact absurd hunbroken hbroken
  | unheard _ hseat =>
    have hgone : (post.listenerNoted.hook.seat.get (post.afterNoted orders s).world).listening ≠ .active := by
      rw [show post.listenerNoted.hook.seat.get (post.afterNoted orders s).world = _ from hseat]
      exact nofun
    exact Act.leaves_of_ok (SignalListener.receive_unheard hgone)

end Runs

/-- An order to a hook whose listener was registered is not interrupted if what ends the process returns. -/
theorem order_returns (hends : ∀ action, (Act.catchPanic (post.errand action).run).Returns)
    (hexit : ∀ code, (post.exitProcess code).Returns) (order : SignalOrder α)
    (hregistered : (post.hook.seat.get s.world).listening ≠ .absent) : ∃ t, post.order order s = .ok () t := by
  cases order with
  | install action => exact ⟨_, Act.discard_ok (SignalHook.install_apply hregistered action)⟩
  | uninstall => exact ⟨_, Act.discard_ok (SignalHook.uninstall_apply post.hook s)⟩
  | signal signal =>
    have hlog : ∀ event : Event, (Act.catchPanic (Act.log event : Act σ Unit)).Returns := fun event s => ⟨_, _, rfl⟩
    have hcode : ∀ code, (Act.catchPanic (post.listener.exitProcess code)).Returns := fun code => (hexit code).catchPanic
    have hhandle : (Act.catchPanic (post.listener.handle signal)).Returns := by
      unfold SignalListener.handle
      refine .catchPanic_bind (fun s => ⟨_, _, rfl⟩) fun arming => .catchPanic_bind (fun s => ⟨_, _, rfl⟩) fun _ => ?_
      cases arming.action with
      | none => exact .catchPanic_bind (hlog _) fun _ => hcode _
      | some action =>
        refine .catchPanic_bind (hlog _) fun _ => .catchPanic_bind (hends action) fun _ => ?_
        by_cases hconfigured : post.listener.shutdown.exitProcess = true
        · rw [if_pos hconfigured]
          exact .catchPanic_bind (hlog _) fun _ => hcode _
        · rw [if_neg hconfigured]
          exact hlog _
    by_cases hactive : (post.listener.hook.seat.get s.world).listening = .active
    · obtain ⟨_, t, ht⟩ | ⟨message, t, ht⟩ := hhandle.answers_or_panics s
      · exact ⟨t, SignalListener.receive_handled hactive ht⟩
      · exact ⟨_, SignalListener.receive_panicked hactive ht⟩
    · exact ⟨s, SignalListener.receive_unheard hactive⟩

/-- Orders are carried out one after the other, without an interruption, if what ends the process returns. -/
theorem orders_return (hends : ∀ action, (Act.catchPanic (post.errand action).run).Returns)
    (hexit : ∀ code, (post.exitProcess code).Returns) (hactive : (post.hook.seat.get s.world).listening = .active)
    (orders : List (SignalOrder α)) : forM orders post.order s = .ok () (post.after orders s) := by
  induction orders using List.reverseRecOn with
  | nil => rfl
  | append_singleton orders order ih =>
    have hregistered : (post.hook.seat.get (post.after orders s).world).listening ≠ .absent := by
      rw [after_world]
      exact (afterNoted_kept hends hactive orders).1.registered
    obtain ⟨t, ht⟩ := order_returns hends hexit order hregistered
    rw [List.forM_append, Act.bind_ok ih, List.forM_cons, Act.bind_ok ht, after_append, Act.leaves_of_ok ht]
    rfl

/-- Nothing panics where actions return. -/
theorem record_unbroken (hreturn : ∀ action, (post.errand action).run.Returns)
    (hactive : (post.hook.seat.get s.world).listening = .active) (orders : List (SignalOrder α)) :
    Unbroken (post.record orders s) := by
  induction orders using List.reverseRecOn with
  | nil =>
    simp only [record, afterNoted, opening, List.foldl_nil]
    cases (post.hook.seat.get s.world).action <;> simp [Unbroken]
  | append_singleton orders order ih =>
    obtain ⟨deeds, hrecord, hturn⟩ := record_turn (fun action => (hreturn action).catchPanic) hactive orders order
    rw [hrecord]
    refine unbroken_append.2 ⟨ih, ?_⟩
    cases hturn with
    | returned signal _ _ hall =>
      exact unbroken_append.2 ⟨(unbroken_of_calls hall).cons (by simp), post.farewell_unbroken.cons (by simp)⟩
    | @panicked _ action _ s t _ _ _ _ hpanic =>
      obtain ⟨_, _, h⟩ := hreturn action s
      cases h.symm.trans hpanic
    | unheard _ hbroken => exact absurd ih hbroken
    | _ => simp [Unbroken]

/-- The signals to a hook whose listener is registered, over any orders with actions that return, and that may arm or disarm the
hook themselves. The hook is armed exactly if the last change of what is installed is an installation. A signal that finds it armed
has the action begin that was installed last, on a hook that is disarmed by then; only behind its return the process is told to
end, with the configured code and if it is to exit at all. A signal that finds the hook disarmed only tells the process to end, with
its own code. So no action begins twice for one installation, nor behind its uninstallation or replacement.

The record changes nothing about this, and where the process is told to end but does not, nothing interrupts the orders. -/
theorem signals_consume_installations (post : SignalPost σ α) (hreturn : ∀ action, (post.errand action).run.Returns)
    (hactive : (post.hook.seat.get s.world).listening = .active) (orders : List (SignalOrder α)) :
    (post.afterNoted orders s).seen Prod.snd = post.after orders s ∧
      post.hook.isArmed (post.after orders s) = .ok (armedBy (post.record orders s)).isSome (post.after orders s) ∧
      (∀ action, post.record (orders ++ [.install action]) s = post.record orders s ++ [.installed action]) ∧
      post.record (orders ++ [.uninstall]) s = post.record orders s ++ [.uninstalled] ∧
      (∀ signal action, armedBy (post.record orders s) = some action →
        ∃ calls : List (SignalDeed α), (∀ deed ∈ calls, deed.Calls) ∧ post.record (orders ++ [.signal signal]) s =
          post.record orders s ++ (.began action false :: calls ++ .returned action :: post.farewell)) ∧
      (∀ signal, armedBy (post.record orders s) = none →
        post.record (orders ++ [.signal signal]) s = post.record orders s ++ [.exited signal.defaultExitCode]) ∧
      (∀ before action armed, before ++ [.began action armed] <+: post.record orders s → armed = false ∧
        ∃ earlier between, before = earlier ++ .installed action :: between ∧ ∀ deed ∈ between, ¬ deed.Changes) ∧
      ((∀ code, (post.exitProcess code).Returns) → forM orders post.order s = .ok () (post.after orders s)) := by
  have hends : ∀ action, (Act.catchPanic (post.errand action).run).Returns := fun action => (hreturn action).catchPanic
  have hunbroken := record_unbroken hreturn hactive orders
  refine ⟨post.afterNoted_seen orders s, isArmed_after hends hactive orders, ?_, ?_, ?_, ?_, ?_, ?_⟩
  · intro action
    obtain ⟨_, hrecord, hturn⟩ := record_turn hends hactive orders (.install action)
    cases hturn
    exact hrecord
  · obtain ⟨_, hrecord, hturn⟩ := record_turn hends hactive orders .uninstall
    cases hturn
    exact hrecord
  · intro signal action harmed
    obtain ⟨calls, behind, hall, rfl | rfl, hrecord⟩ := signal_finds_action hends hactive orders signal hunbroken harmed
    · exact ⟨calls, hall, hrecord⟩
    · have hpanic := record_unbroken hreturn hactive (orders ++ [.signal signal]) action
      rw [hrecord] at hpanic
      exact absurd (by simp) hpanic
  · intro signal hunarmed
    exact signal_finds_none hends hactive orders signal hunbroken hunarmed
  · intro before action armed h
    exact began_after hends hactive orders h
  · intro hexit
    exact orders_return hends hexit hactive orders

/-- The signals to a hook whose listener is registered, over any orders with actions that return or panic. Until an action panics,
every signal has the installed action begin, or has the process told to end if there is none. A panic is the end of the listener:
behind it every signal comes to nothing, whether an action is installed by then or not. -/
theorem signals_act_until_a_panic (post : SignalPost σ α)
    (hends : ∀ action, (Act.catchPanic (post.errand action).run).Returns)
    (hactive : (post.hook.seat.get s.world).listening = .active) (orders : List (SignalOrder α)) :
    (post.afterNoted orders s).seen Prod.snd = post.after orders s ∧
      (∀ signal, Unbroken (post.record orders s) →
        (∀ action, armedBy (post.record orders s) = some action → ∃ calls behind : List (SignalDeed α),
          (∀ deed ∈ calls, deed.Calls) ∧ (behind = .returned action :: post.farewell ∨ behind = [.panicked action]) ∧
          post.record (orders ++ [.signal signal]) s = post.record orders s ++ (.began action false :: calls ++ behind)) ∧
        (armedBy (post.record orders s) = none →
          post.record (orders ++ [.signal signal]) s = post.record orders s ++ [.exited signal.defaultExitCode])) ∧
      (∀ signal, ¬ Unbroken (post.record orders s) →
        post.record (orders ++ [.signal signal]) s = post.record orders s ∧
          post.after (orders ++ [.signal signal]) s = post.after orders s) := by
  refine ⟨post.afterNoted_seen orders s, ?_, ?_⟩
  · intro signal hunbroken
    refine ⟨?_, signal_finds_none hends hactive orders signal hunbroken⟩
    intro action harmed
    exact signal_finds_action hends hactive orders signal hunbroken harmed
  · intro signal hbroken
    have hnothing := signal_behind_panic hends hactive orders signal hbroken
    rw [← post.afterNoted_seen, ← post.afterNoted_seen, record, record, hnothing]
    exact ⟨rfl, rfl⟩

namespace Rehearsal

/-- The hook of the rehearsals. Beside its arming the world has the codes that the process was told to end with. -/
def hook : SignalHook (Arming Bool × List Int32) Bool where
  seat := Part.fst
  register := return .ok ()

/-- A post whose process never ends. One of its actions installs the other one, of which this is the errand. -/
def relay (other : Errand hook) : SignalPost (Arming Bool × List Int32) Bool where
  hook
  lawful := Part.lawful_fst
  shutdown := ⟨false, 0⟩
  errand action := if action then .install false fun _ => .done else other
  exitProcess code := Part.snd.modify (· ++ [code])
  exit_apart _ _ := rfl
  exit_quiet _ _ _ _ := nofun

/-- An errand that panics. -/
def burst : Errand hook :=
  .aside (throw (.panic "burst")) (fun _ => rfl) fun _ : Unit => .done

/-- A registered listener, and nothing installed. -/
def stage : Stage (Arming Bool × List Int32) :=
  ⟨(⟨none, .active⟩, []), []⟩

theorem relay_installs (other : Errand hook) : ((relay other).errand true).run.Returns := by
  rintro ⟨⟨⟨action, listening⟩, codes⟩, journal⟩
  cases listening with
  | absent => exact ⟨_, _, rfl⟩
  | active => exact ⟨_, _, rfl⟩
  | ended => exact ⟨_, _, rfl⟩

theorem relay_returns (action : Bool) : ((relay .done).errand action).run.Returns := by
  cases action with
  | true => exact relay_installs .done
  | false => exact fun s => ⟨_, _, rfl⟩

theorem burst_ends (action : Bool) : (Act.catchPanic ((relay burst).errand action).run).Returns := by
  cases action with
  | true => exact (relay_installs burst).catchPanic
  | false => exact fun s => ⟨_, _, rfl⟩

end Rehearsal

/-- `signals_consume_installations` in the rehearsal: on the first signal an action installs another one, which begins on the next
signal; the one behind that finds nothing installed. -/
theorem signals_consume_installations_rehearsal :
    (Rehearsal.relay .done).record [.install true, .signal .terminate] Rehearsal.stage =
        [.installed true, .began true false, .installed false, .returned true] ∧
      Rehearsal.hook.isArmed ((Rehearsal.relay .done).after [.install true, .signal .terminate] Rehearsal.stage) =
        .ok true ((Rehearsal.relay .done).after [.install true, .signal .terminate] Rehearsal.stage) ∧
      (∃ calls : List (SignalDeed Bool), (∀ deed ∈ calls, deed.Calls) ∧
        (Rehearsal.relay .done).record [.install true, .signal .terminate, .signal .interrupt] Rehearsal.stage =
          [.installed true, .began true false, .installed false, .returned true] ++
            (.began false false :: calls ++ [.returned false])) ∧
      (Rehearsal.relay .done).record [.install true, .signal .terminate, .signal .interrupt, .signal .interrupt] Rehearsal.stage =
        (Rehearsal.relay .done).record [.install true, .signal .terminate, .signal .interrupt] Rehearsal.stage ++ [.exited 130] := by
  obtain ⟨-, harmed, -, -, hsignal, -, -⟩ := signals_consume_installations (s := Rehearsal.stage) (Rehearsal.relay .done)
    Rehearsal.relay_returns rfl [.install true, .signal .terminate]
  obtain ⟨-, -, -, -, -, hnone, -⟩ := signals_consume_installations (s := Rehearsal.stage) (Rehearsal.relay .done)
    Rehearsal.relay_returns rfl [.install true, .signal .terminate, .signal .interrupt]
  exact ⟨rfl, harmed, hsignal .interrupt false rfl, hnone .interrupt rfl⟩

/-- `signals_act_until_a_panic` in the rehearsal: the second signal has an action begin that panics. The third one comes to
nothing, though an action is installed. -/
theorem signals_act_until_a_panic_rehearsal :
    (Rehearsal.relay Rehearsal.burst).record [.install true, .signal .terminate, .signal .interrupt, .install true]
        Rehearsal.stage =
      [.installed true, .began true false, .installed false, .returned true, .began false false, .panicked false,
        .installed true] ∧
      (Rehearsal.relay Rehearsal.burst).after
          ([.install true, .signal .terminate, .signal .interrupt, .install true] ++ [.signal .interrupt]) Rehearsal.stage =
        (Rehearsal.relay Rehearsal.burst).after [.install true, .signal .terminate, .signal .interrupt, .install true]
          Rehearsal.stage := by
  obtain ⟨-, -, hbehind⟩ := signals_act_until_a_panic (s := Rehearsal.stage) (Rehearsal.relay Rehearsal.burst)
    Rehearsal.burst_ends rfl [.install true, .signal .terminate, .signal .interrupt, .install true]
  have hrecord : (Rehearsal.relay Rehearsal.burst).record [.install true, .signal .terminate, .signal .interrupt, .install true]
      Rehearsal.stage = [.installed true, .began true false, .installed false, .returned true, .began false false,
        .panicked false, .installed true] := rfl
  have hbroken : ¬ Unbroken ((Rehearsal.relay Rehearsal.burst).record
      [.install true, .signal .terminate, .signal .interrupt, .install true] Rehearsal.stage) := by
    rw [hrecord]
    exact fun h => h false (by simp)
  exact ⟨hrecord, (hbehind .interrupt hbroken).2⟩

/-- Signals can be swallowed: behind an action that panics, a signal neither has an action begin nor tells the process to end. -/
theorem signal_swallowed_behind_panic :
    ¬ ∀ post : SignalPost (Arming Bool × List Int32) Bool, (∀ action, (Act.catchPanic (post.errand action).run).Returns) →
      ∀ s : Stage (Arming Bool × List Int32), (post.hook.seat.get s.world).listening = .active →
      ∀ (orders : List (SignalOrder Bool)) (signal : TerminationSignal),
        ∃ deeds, post.record (orders ++ [.signal signal]) s = post.record orders s ++ deeds ∧
          ((∃ action armed, .began action armed ∈ deeds) ∨ .exited signal.defaultExitCode ∈ deeds) := by
  intro hacts
  obtain ⟨deeds, hrecord, hdeed⟩ := hacts (Rehearsal.relay Rehearsal.burst) Rehearsal.burst_ends Rehearsal.stage rfl
    [.install false, .signal .terminate] .terminate
  have hsilent : (Rehearsal.relay Rehearsal.burst).record [.install false, .signal .terminate, .signal .terminate]
      Rehearsal.stage = (Rehearsal.relay Rehearsal.burst).record [.install false, .signal .terminate] Rehearsal.stage := rfl
  have hnothing : deeds = [] := List.append_cancel_left (hrecord.symm.trans (hsilent.trans (List.append_nil _).symm))
  subst hnothing
  rcases hdeed with ⟨action, armed, hbegan⟩ | hexited
  · cases hbegan
  · cases hexited

end SignalPost

end Supervision

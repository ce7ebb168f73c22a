import Supervision.Proofs.Signals.Post
import Mathlib.Data.List.Induction

/-!
# What signals come to

The record of a signal hook tells which action is installed: the one that was installed last, unless it was uninstalled or has
begun since (`armedBy`). `SignalPost.Turn` is what one order adds to the record. A signal acts on the hook until an action panics:
it has the installed action begin on a disarmed hook, or has the process end with its own code. Behind a panic nobody listens any
more, and signals add nothing.
-/

namespace Supervision

variable {σ α : Type}

namespace SignalDeed

/-- Whether a deed changes what is installed. -/
def Changes : SignalDeed α → Prop
  | installed _ | uninstalled | began _ _ => True
  | returned _ | panicked _ | exited _ => False

/-- Whether a deed is a call of the hook, to arm or to disarm it. -/
def Calls : SignalDeed α → Prop
  | installed _ | uninstalled => True
  | _ => False

end SignalDeed

/-- What is installed behind a deed, if this was installed before it. -/
def armedAfter (armed : Option α) : SignalDeed α → Option α
  | .installed action => some action
  | .uninstalled | .began _ _ => none
  | .returned _ | .panicked _ | .exited _ => armed

/-- The action that is installed behind these deeds. -/
def armedBy (record : List (SignalDeed α)) : Option α :=
  record.foldl armedAfter none

/-- No action has panicked. -/
def Unbroken (record : List (SignalDeed α)) : Prop :=
  ∀ action, .panicked action ∉ record

theorem unbroken_append {record deeds : List (SignalDeed α)} : Unbroken (record ++ deeds) ↔ Unbroken record ∧ Unbroken deeds := by
  simp only [Unbroken, List.mem_append, not_or, forall_and]

theorem Unbroken.cons {deed : SignalDeed α} {record : List (SignalDeed α)} (h : Unbroken record)
    (hdeed : ∀ action, .panicked action ≠ deed) : Unbroken (deed :: record) := by
  intro action hpanic
  rcases List.mem_cons.1 hpanic with hpanic | hpanic
  · exact hdeed action hpanic
  · exact h action hpanic

theorem unbroken_of_calls {calls : List (SignalDeed α)} (h : ∀ deed ∈ calls, deed.Calls) : Unbroken calls :=
  fun _ hpanic => h _ hpanic

theorem armedBy_append_singleton (record : List (SignalDeed α)) (deed : SignalDeed α) :
    armedBy (record ++ [deed]) = armedAfter (armedBy record) deed := by
  rw [armedBy, List.foldl_append]
  rfl

/-- Deeds that change nothing leave installed what is installed. -/
theorem armedBy_append (record : List (SignalDeed α)) {behind : List (SignalDeed α)} (h : ∀ deed ∈ behind, ¬ deed.Changes) :
    armedBy (record ++ behind) = armedBy record := by
  induction behind using List.reverseRecOn with
  | nil => rw [List.append_nil]
  | append_singleton behind deed ih =>
    have hdeed : ¬ deed.Changes := h deed (List.mem_append_right _ List.mem_cons_self)
    rw [← List.append_assoc, armedBy_append_singleton, ih fun d hd => h d (List.mem_append_left _ hd)]
    cases deed with
    | installed _ => exact absurd trivial hdeed
    | uninstalled => exact absurd trivial hdeed
    | began _ _ => exact absurd trivial hdeed
    | _ => rfl

/-- An action is installed exactly if its installation is the last change on record. -/
theorem armedBy_eq_some {record : List (SignalDeed α)} {action : α} :
    armedBy record = some action ↔
      ∃ before behind, record = before ++ .installed action :: behind ∧ ∀ deed ∈ behind, ¬ deed.Changes := by
  constructor
  · intro h
    induction record using List.reverseRecOn with
    | nil => cases h
    | append_singleton record deed ih =>
      rw [armedBy_append_singleton] at h
      cases deed with
      | installed last =>
        cases h
        exact ⟨record, [], rfl, nofun⟩
      | uninstalled => cases h
      | began _ _ => cases h
      | _ =>
        obtain ⟨before, behind, rfl, hbehind⟩ := ih h
        refine ⟨before, behind ++ [_], by rw [List.append_assoc, List.cons_append], ?_⟩
        intro deed hdeed
        rcases List.mem_append.1 hdeed with hdeed | hdeed
        · exact hbehind deed hdeed
        · rw [List.mem_singleton.1 hdeed]
          exact id
  · rintro ⟨before, behind, rfl, hbehind⟩
    rw [List.append_cons, armedBy_append _ hbehind, armedBy_append_singleton]
    rfl

/-- No action begins but on a disarmed hook, and none but the one that is installed. -/
def Consumes (record : List (SignalDeed α)) : Prop :=
  ∀ before action armed, before ++ [.began action armed] <+: record → armed = false ∧ armedBy before = some action

theorem consumes_nil : Consumes ([] : List (SignalDeed α)) := by
  intro before action armed h
  exact absurd (List.prefix_nil.1 h) (by simp)

/-- A deed that is not the beginning of an action is no matter of consumption. -/
theorem Consumes.append {record : List (SignalDeed α)} (h : Consumes record) {behind : List (SignalDeed α)}
    (hbehind : ∀ action armed, .began action armed ∉ behind) : Consumes (record ++ behind) := by
  induction behind using List.reverseRecOn with
  | nil => rwa [List.append_nil]
  | append_singleton behind deed ih =>
    have hrest := ih fun action armed hd => hbehind action armed (List.mem_append_left _ hd)
    intro before action armed hprefix
    rw [← List.append_assoc, List.prefix_concat_iff] at hprefix
    rcases hprefix with hlast | hprefix
    · obtain ⟨-, rfl⟩ := List.append_singleton_inj.1 hlast
      exact absurd (List.mem_append_right _ List.mem_cons_self) (hbehind action armed)
    · exact hrest before action armed hprefix

/-- The installed action may begin, on a disarmed hook. -/
theorem Consumes.began {record : List (SignalDeed α)} (h : Consumes record) {action : α} (harmed : armedBy record = some action) :
    Consumes (record ++ [.began action false]) := by
  intro before action' armed hprefix
  rw [List.prefix_concat_iff] at hprefix
  rcases hprefix with hlast | hprefix
  · obtain ⟨rfl, hdeed⟩ := List.append_singleton_inj.1 hlast
    cases hdeed
    exact ⟨rfl, harmed⟩
  · exact h before action' armed hprefix

/-! ## One order -/

/-- Amid an errand the record has grown by calls of the hook, and the hook is as the record says. -/
def Amid (hook : SignalHook σ α) (record : List (SignalDeed α)) (p : List (SignalDeed α) × σ) : Prop :=
  ∃ calls, p.1 = record ++ calls ∧ (∀ deed ∈ calls, deed.Calls) ∧ hook.seat.get p.2 = ⟨armedBy p.1, .active⟩

namespace Amid

variable {hook : SignalHook σ α} {record : List (SignalDeed α)}

theorem aside {β : Type} (x : Act σ β) (apart : x.Leads fun w w' => hook.seat.get w' = hook.seat.get w) :
    (Part.snd.focus x).Keeps (Amid hook record) := by
  rintro s ⟨calls, hcalls, hall, hseat⟩
  rw [Part.leaves_focus]
  exact ⟨calls, hcalls, hall, (apart ⟨s.world.2, s.journal⟩).trans hseat⟩

/-- A call of the hook, on record, that leaves the hook armed with this. -/
theorem call (hl : hook.seat.Lawful) {x : Act (List (SignalDeed α) × σ) (Reply Unit)} (deed : SignalDeed α) (hdeed : deed.Calls)
    {action : Option α} (harmed : ∀ armed, armedAfter armed deed = action)
    (hx : ∀ s, (hook.seat.get s.world.2).listening ≠ .absent → x s = .ok (.ok ())
      ⟨(s.world.1 ++ [deed], hook.seat.set { hook.seat.get s.world.2 with action } s.world.2), s.journal⟩) :
    x.Keeps (Amid hook record) := by
  rintro s ⟨calls, hcalls, hall, hseat⟩
  rw [Act.leaves_of_ok (hx s (by rw [hseat]; exact nofun))]
  refine ⟨calls ++ [deed], by rw [hcalls, List.append_assoc], ?_, ?_⟩
  · intro d hd
    rcases List.mem_append.1 hd with hd | hd
    · exact hall d hd
    · exact List.mem_singleton.1 hd ▸ hdeed
  · rw [hl.get_set, hseat, armedBy_append_singleton, harmed]

/-- An errand does nothing to the hook that is not on record. -/
theorem errand (hl : hook.seat.Lawful) (e : Errand hook) : e.runNoted.Keeps (Amid hook record) := by
  induction e with
  | done => exact .pure _
  | aside x apart _ ih => exact (Amid.aside x apart).bind ih
  | install action _ ih =>
    exact (Amid.call hl (.installed action) trivial (fun _ => rfl) fun _ hs => hook.installNoted_apply hs action).bind ih
  | uninstall _ ih => exact (Amid.call hl .uninstalled trivial (fun _ => rfl) fun s _ => hook.uninstallNoted_apply s).bind ih

end Amid

namespace SignalPost

variable {post : SignalPost σ α}

/-- What is on record at the end of an action that has returned: whether the process is to end. -/
def farewell (post : SignalPost σ α) : List (SignalDeed α) :=
  if post.shutdown.exitProcess then [.exited post.shutdown.exitCode] else []

/-- What an order adds to a record. -/
inductive Turn (post : SignalPost σ α) (record : List (SignalDeed α)) : SignalOrder α → List (SignalDeed α) → Prop where
  | install (action : α) : Turn post record (.install action) [.installed action]
  | uninstall : Turn post record .uninstall [.uninstalled]
  /-- A signal on which the installed action returns. -/
  | returned (signal : TerminationSignal) {action : α} {calls : List (SignalDeed α)} :
      Unbroken record → armedBy record = some action → (∀ deed ∈ calls, deed.Calls) →
      Turn post record (.signal signal) (.began action false :: calls ++ .returned action :: post.farewell)
  /-- A signal on which the installed action panics, as it does when it is run without a record. -/
  | panicked (signal : TerminationSignal) {action : α} {calls : List (SignalDeed α)} {s t : Stage σ} {message : String} :
      Unbroken record → armedBy record = some action → (∀ deed ∈ calls, deed.Calls) →
      (post.errand action).run s = .error (.panic message) t →
      Turn post record (.signal signal) (.began action false :: calls ++ [.panicked action])
  /-- A signal that finds no action installed. -/
  | unarmed (signal : TerminationSignal) : Unbroken record → armedBy record = none →
      Turn post record (.signal signal) [.exited signal.defaultExitCode]
  /-- A signal behind a panic. -/
  | unheard (signal : TerminationSignal) : ¬ Unbroken record → Turn post record (.signal signal) []

/-- A hook that is as its record says. Its listener is gone exactly behind a panic. -/
inductive Kept (post : SignalPost σ α) (record : List (SignalDeed α)) (w : σ) : Prop where
  | heard : Unbroken record → post.hook.seat.get w = ⟨armedBy record, .active⟩ → Kept post record w
  | unheard : ¬ Unbroken record → post.hook.seat.get w = ⟨armedBy record, .ended⟩ → Kept post record w

theorem farewell_unchanging (post : SignalPost σ α) : ∀ deed ∈ post.farewell, ¬ deed.Changes := by
  intro deed hdeed
  unfold farewell at hdeed
  split at hdeed
  · exact List.mem_singleton.1 hdeed ▸ id
  · cases hdeed

theorem farewell_unbroken (post : SignalPost σ α) : Unbroken post.farewell := by
  intro action hpanic
  unfold farewell at hpanic
  split at hpanic
  · cases List.mem_singleton.1 hpanic
  · cases hpanic

/-- A change of what is installed, on record, keeps the hook as the record says. -/
theorem Kept.change {record : List (SignalDeed α)} {w : σ} (h : Kept post record w) {deed : SignalDeed α}
    (hdeed : Unbroken [deed]) (action : Option α) (harmed : armedAfter (armedBy record) deed = action) :
    Kept post (record ++ [deed]) (post.hook.seat.set { post.hook.seat.get w with action } w) := by
  cases h with
  | heard hunbroken hseat =>
    refine .heard (unbroken_append.2 ⟨hunbroken, hdeed⟩) ?_
    rw [post.lawful.get_set, hseat, armedBy_append_singleton, harmed]
  | unheard hbroken hseat =>
    refine .unheard (fun hunbroken => hbroken (unbroken_append.1 hunbroken).1) ?_
    rw [post.lawful.get_set, hseat, armedBy_append_singleton, harmed]

/-- Deeds that change nothing and are no panics keep the hook as the record says. -/
theorem Kept.aside {record deeds : List (SignalDeed α)} {w w' : σ} (h : Kept post record w)
    (hdeeds : ∀ deed ∈ deeds, ¬ deed.Changes) (hunbroken : Unbroken deeds)
    (hsame : post.hook.seat.get w' = post.hook.seat.get w) : Kept post (record ++ deeds) w' := by
  cases h with
  | heard hrecord hseat =>
    refine .heard (unbroken_append.2 ⟨hrecord, hunbroken⟩) ?_
    rw [hsame, hseat, armedBy_append _ hdeeds]
  | unheard hrecord hseat =>
    refine .unheard (fun hall => hrecord (unbroken_append.1 hall).1) ?_
    rw [hsame, hseat, armedBy_append _ hdeeds]

/-- The listener of a hook was registered, whether it is gone or not. -/
theorem Kept.registered {record : List (SignalDeed α)} {w : σ} (h : Kept post record w) :
    (post.hook.seat.get w).listening ≠ .absent := by
  cases h with
  | heard _ hseat => rw [hseat]; exact nofun
  | unheard _ hseat => rw [hseat]; exact nofun

variable (hends : ∀ action, (Act.catchPanic (post.errand action).run).Returns)

include hends in
/-- An action begins on a disarmed hook, does what it does, and returns or panics. -/
theorem run_ends (action : α) {s : Stage (List (SignalDeed α) × σ)} (hseat : post.hook.seat.get s.world.2 = ⟨none, .active⟩) :
    ∃ ending calls w journal, (∀ deed ∈ calls, deed.Calls) ∧
      Act.catchPanic (post.listenerNoted.run action) s =
        .ok ending ⟨(s.world.1 ++ .began action false :: calls ++ [.ended action ending], w), journal⟩ ∧
      post.hook.seat.get w = ⟨armedBy (s.world.1 ++ .began action false :: calls ++ [.ended action ending]), .active⟩ ∧
      ∃ s t, Act.catchPanic (post.errand action).run s = .ok ending t := by
  have hbegun : Amid post.hook (s.world.1 ++ [.began action false]) (s.world.1 ++ [.began action false], s.world.2) :=
    ⟨[], (List.append_nil _).symm, nofun, by rw [hseat, armedBy_append_singleton]; rfl⟩
  have hmirrors := (post.errand action).runNoted_mirrors.catchPanic
  -- the errand ends on record as it ends without one, since the record is no part of what it looks at
  obtain ⟨ending, t, ht⟩ := hmirrors.returns (hends action) ⟨(s.world.1 ++ [.began action false], s.world.2), s.journal⟩
  obtain ⟨calls, hcalls, hall, harmed⟩ := (Amid.errand post.lawful (post.errand action)).catchPanic.of_ok ht hbegun
  have hrecord : t.world.1 ++ [.ended action ending] =
      s.world.1 ++ .began action false :: calls ++ [.ended action ending] := by
    rw [hcalls, List.append_cons s.world.1 (.began action false) calls]
  have hunchanged : ∀ deed ∈ [SignalDeed.ended action ending], ¬ deed.Changes := by
    intro deed hdeed
    rw [List.mem_singleton.1 hdeed]
    cases ending <;> exact id
  have hplain := hmirrors ⟨(s.world.1 ++ [.began action false], s.world.2), s.journal⟩
  rw [ht] at hplain
  refine ⟨ending, calls, t.world.2, t.journal, hall, ?_, ?_, _, _, hplain⟩
  · rw [← hrecord]
    exact run_apply (by rw [hseat]; exact ht)
  · rw [← hrecord, armedBy_append _ hunchanged, harmed]

/-- The end of a signal whose action has returned is on record, whether it returns or not, and the hook is as it was. -/
theorem conclude_leaves (post : SignalPost σ α) (s : Stage (List (SignalDeed α) × σ)) :
    ∃ w journal, post.listenerNoted.conclude.leaves s = ⟨(s.world.1 ++ post.farewell, w), journal⟩ ∧
      post.hook.seat.get w = post.hook.seat.get s.world.2 := by
  unfold SignalListener.conclude farewell
  rw [show post.listenerNoted.shutdown = post.shutdown from rfl]
  by_cases hexit : post.shutdown.exitProcess = true
  · rw [if_pos hexit, if_pos hexit]
    exact post.exit_leaves post.shutdown.exitCode (s.tell [.exitAfterHook post.shutdown.exitCode])
  · rw [if_neg hexit, if_neg hexit, List.append_nil]
    exact ⟨_, _, rfl, rfl⟩

/-- The end of a signal whose action has returned does not panic. -/
theorem conclude_quiet (post : SignalPost σ α) (s : Stage (List (SignalDeed α) × σ)) (message : String)
    (t : Stage (List (SignalDeed α) × σ)) : post.listenerNoted.conclude s ≠ .error (.panic message) t := by
  unfold SignalListener.conclude
  rw [show post.listenerNoted.shutdown = post.shutdown from rfl]
  by_cases hexit : post.shutdown.exitProcess = true
  · rw [if_pos hexit]
    exact post.exitNoted_quiet post.shutdown.exitCode (s.tell [.exitAfterHook post.shutdown.exitCode]) message t
  · rw [if_neg hexit]
    exact nofun

/-- An order takes its turn: what goes on record is its own, and the hook is as the record says. -/
def TakesTurn (post : SignalPost σ α) (order : SignalOrder α) (s : Stage (List (SignalDeed α) × σ)) : Prop :=
  ∃ deeds w journal, (post.orderNoted order).leaves s = ⟨(s.world.1 ++ deeds, w), journal⟩ ∧
    post.Turn s.world.1 order deeds ∧ post.Kept (s.world.1 ++ deeds) w

/-- A signal on which an action begins that returns. -/
theorem signal_returned (signal : TerminationSignal) {action : α} {calls : List (SignalDeed α)} {w : σ} {journal : List Event}
    {s : Stage (List (SignalDeed α) × σ)} (hunbroken : Unbroken s.world.1) (harmed : armedBy s.world.1 = some action)
    (hactive : (post.listenerNoted.hook.seat.get s.world).listening = .active) (hall : ∀ deed ∈ calls, deed.Calls)
    (hhandle : post.listenerNoted.handle signal s = post.listenerNoted.conclude
      ⟨(s.world.1 ++ .began action false :: calls ++ [.returned action], w), journal⟩)
    (harming : post.hook.seat.get w = ⟨armedBy (s.world.1 ++ .began action false :: calls ++ [.returned action]), .active⟩) :
    post.TakesTurn (.signal signal) s := by
  obtain ⟨w', journal', hconclude, hsame⟩ := post.conclude_leaves
    ⟨(s.world.1 ++ .began action false :: calls ++ [.returned action], w), journal⟩
  have hrecord : s.world.1 ++ .began action false :: calls ++ [.returned action] ++ post.farewell =
      s.world.1 ++ (.began action false :: calls ++ .returned action :: post.farewell) := by simp
  rw [hrecord] at hconclude
  refine ⟨_, w', journal', ?_, .returned signal hunbroken harmed hall, ?_⟩
  · -- whether the process ends here or not, what the signal leaves is what its handling leaves
    rw [orderNoted, SignalListener.receive_leaves hactive fun message t => hhandle ▸ post.conclude_quiet _ message t,
      Act.leaves_congr hhandle, hconclude]
  · have hreturned : Unbroken (s.world.1 ++ .began action false :: calls ++ [.returned action]) :=
      unbroken_append.2 ⟨unbroken_append.2 ⟨hunbroken, (unbroken_of_calls hall).cons nofun⟩, by simp [Unbroken]⟩
    rw [← hrecord]
    exact (Kept.heard hreturned harming).aside post.farewell_unchanging post.farewell_unbroken hsame

/-- A signal on which an action begins that panics. The listener is gone with it. -/
theorem signal_panicked (signal : TerminationSignal) {action : α} {calls : List (SignalDeed α)} {w : σ} {journal : List Event}
    {message : String} {s : Stage (List (SignalDeed α) × σ)} (hunbroken : Unbroken s.world.1)
    (harmed : armedBy s.world.1 = some action)
    (hactive : (post.listenerNoted.hook.seat.get s.world).listening = .active) (hall : ∀ deed ∈ calls, deed.Calls)
    (hhandle : post.listenerNoted.handle signal s =
      .error (.panic message) ⟨(s.world.1 ++ .began action false :: calls ++ [.panicked action], w), journal⟩)
    (harming : post.hook.seat.get w = ⟨armedBy (s.world.1 ++ .began action false :: calls ++ [.panicked action]), .active⟩)
    (hplain : ∃ s t, (post.errand action).run s = .error (.panic message) t) : post.TakesTurn (.signal signal) s := by
  obtain ⟨_, _, hpanic⟩ := hplain
  have hreceive := SignalListener.receive_panicked hactive hhandle
  rw [List.append_assoc] at hreceive harming
  refine ⟨_, post.hook.seat.set { post.hook.seat.get w with listening := .ended } w, journal, ?_,
    .panicked signal hunbroken harmed hall hpanic, .unheard ?_ ?_⟩
  · rw [orderNoted, Act.leaves_of_ok hreceive]
    rfl
  · exact fun h => h action (by simp)
  · rw [post.lawful.get_set, harming]

include hends in
/-- A signal that finds an action installed. -/
theorem signal_armed (signal : TerminationSignal) {s : Stage (List (SignalDeed α) × σ)} {action : α}
    (hunbroken : Unbroken s.world.1) (harmed : armedBy s.world.1 = some action)
    (hseat : post.hook.seat.get s.world.2 = ⟨some action, .active⟩) : post.TakesTurn (.signal signal) s := by
  have hfound : (post.listenerNoted.hook.seat.get s.world).action = some action := congrArg Arming.action hseat
  have hactive : (post.listenerNoted.hook.seat.get s.world).listening = .active := congrArg Arming.listening hseat
  have hdisarmed : post.hook.seat.get (post.hook.seat.set { post.hook.seat.get s.world.2 with action := none } s.world.2) =
      ⟨none, .active⟩ := by rw [post.lawful.get_set, hseat]
  obtain ⟨ending, calls, w, journal, hall, hrun, harming, _, _, hplain⟩ := run_ends hends action
    (s := ⟨(s.world.1, post.hook.seat.set { post.hook.seat.get s.world.2 with action := none } s.world.2),
      s.journal ++ [.signalHandled signal]⟩) hdisarmed
  cases ending with
  | ok _ =>
    exact signal_returned signal hunbroken harmed hactive hall
      (SignalListener.handle_armed hfound (Act.of_catchPanic_ok hrun)) harming
  | error message =>
    exact signal_panicked signal hunbroken harmed hactive hall
      (SignalListener.handle_interrupted hfound (Act.of_catchPanic_error hrun)) harming
      ⟨_, _, Act.of_catchPanic_error hplain⟩

/-- A signal that finds no action installed. -/
theorem signal_unarmed (signal : TerminationSignal) {s : Stage (List (SignalDeed α) × σ)} (hunbroken : Unbroken s.world.1)
    (hunarmed : armedBy s.world.1 = none) (hseat : post.hook.seat.get s.world.2 = ⟨none, .active⟩) :
    post.TakesTurn (.signal signal) s := by
  have hfound : (post.listenerNoted.hook.seat.get s.world).action = none := congrArg Arming.action hseat
  have hactive : (post.listenerNoted.hook.seat.get s.world).listening = .active := congrArg Arming.listening hseat
  have hlawful : post.listenerNoted.hook.seat.Lawful := Part.lawful_snd.comp post.lawful
  have hhandle : post.listenerNoted.handle signal s = _ := SignalListener.handle_unarmed hlawful hfound
  obtain ⟨w, journal, hexit, hsame⟩ := post.exit_leaves signal.defaultExitCode
    (s.tell [.signalUnhandled signal signal.defaultExitCode])
  refine ⟨[.exited signal.defaultExitCode], w, journal, ?_, .unarmed signal hunbroken hunarmed, ?_⟩
  · rw [orderNoted, SignalListener.receive_leaves hactive fun message t => hhandle ▸ post.exitNoted_quiet _ _ message t,
      Act.leaves_congr hhandle, hexit]
    rfl
  · have hkept : post.Kept s.world.1 s.world.2 := .heard hunbroken (hunarmed ▸ hseat)
    exact hkept.aside (by simp [SignalDeed.Changes]) (by simp [Unbroken]) hsame

/-- A signal that nobody hears. -/
theorem signal_unheard (signal : TerminationSignal) {s : Stage (List (SignalDeed α) × σ)} (hbroken : ¬ Unbroken s.world.1)
    (hseat : post.hook.seat.get s.world.2 = ⟨armedBy s.world.1, .ended⟩) : post.TakesTurn (.signal signal) s := by
  have hgone : (post.listenerNoted.hook.seat.get s.world).listening ≠ .active := by
    rw [show post.listenerNoted.hook.seat.get s.world = _ from hseat]
    exact nofun
  refine ⟨[], s.world.2, s.journal, ?_, .unheard signal hbroken, ?_⟩
  · rw [orderNoted, Act.leaves_of_ok (SignalListener.receive_unheard hgone), List.append_nil]
  · rw [List.append_nil]
    exact .unheard hbroken hseat

include hends in
/-- Every order takes its turn at a hook that is as the record says. -/
theorem order_turn (order : SignalOrder α) {s : Stage (List (SignalDeed α) × σ)} (hs : post.Kept s.world.1 s.world.2) :
    post.TakesTurn order s := by
  cases order with
  | install action =>
    refine ⟨_, _, s.journal, ?_, .install action, hs.change (by simp [Unbroken]) (some action) rfl⟩
    rw [orderNoted, Act.leaves_discard, Act.leaves_of_ok (SignalHook.installNoted_apply hs.registered action)]
  | uninstall =>
    refine ⟨_, _, s.journal, ?_, .uninstall, hs.change (by simp [Unbroken]) none rfl⟩
    rw [orderNoted, Act.leaves_discard, Act.leaves_of_ok (SignalHook.uninstallNoted_apply post.hook s)]
  | signal signal =>
    cases hs with
    | heard hunbroken hseat =>
      cases harmed : armedBy s.world.1 with
      | some action => exact signal_armed hends signal hunbroken harmed (harmed ▸ hseat)
      | none => exact signal_unarmed signal hunbroken harmed (harmed ▸ hseat)
    | unheard hbroken hseat => exact signal_unheard signal hbroken hseat

/-- An action begins in a turn only as it may. -/
theorem Turn.consumes {record deeds : List (SignalDeed α)} {order : SignalOrder α} (h : post.Turn record order deeds)
    (hrecord : Consumes record) : Consumes (record ++ deeds) := by
  cases h with
  | install action => exact hrecord.append (by simp)
  | uninstall => exact hrecord.append (by simp)
  | unarmed signal _ _ => exact hrecord.append (by simp)
  | unheard signal _ => exact hrecord.append (by simp)
  | @returned signal action calls _ harmed hall =>
    rw [List.cons_append, List.append_cons record]
    refine (hrecord.began harmed).append fun action' armed hbegan => ?_
    rcases List.mem_append.1 hbegan with hbegan | hbegan
    · exact hall _ hbegan
    · rcases List.mem_cons.1 hbegan with hbegan | hbegan
      · cases hbegan
      · exact post.farewell_unchanging _ hbegan trivial
  | @panicked signal action calls _ _ _ _ harmed hall _ =>
    rw [List.cons_append, List.append_cons record]
    refine (hrecord.began harmed).append fun action' armed hbegan => ?_
    rcases List.mem_append.1 hbegan with hbegan | hbegan
    · exact hall _ hbegan
    · cases List.mem_singleton.1 hbegan

end SignalPost

end Supervision

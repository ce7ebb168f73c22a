import Supervision.Proofs.Bookkeeping
import Supervision.Proofs.Visits

/-!
# What firing the exit hook does

The action of an exit hook is handed over when the hook is installed, and acts on what is registered when it fires
(`Coordinator.Fires`): by then the flag says that the hook is not installed, so that a registration which a component makes while
it is stopped installs it again. A firing without such registrations leaves a hook that does nothing more; the next registration
that is accepted arms it (`Coordinator.Accepts.armed`).
-/

namespace Supervision

variable {σ κ : Type}

namespace Coordinator

variable {c : Coordinator σ κ} {hook : ProcessHook σ}

/-- A coordinator that has the requests to its components on record. -/
def onRecord (c : Coordinator σ κ) (hook : ProcessHook σ) : Coordinator (List (Visit κ) × σ) κ :=
  c.beside hook fun k => (c.component k).recorded k

/-- Fires the hook, and answers with the requests that components were sent. -/
def firing (c : Coordinator σ κ) (hook : ProcessHook σ) : Act σ (List (Visit κ)) := do
  let ((), visits) ← Act.recording [] (hook.beside.fire (c.onRecord hook).exitAction)
  return visits

/-- Neither what a coordinator keeps nor its hook is touched. -/
structure Untouched (c : Coordinator σ κ) (hook : ProcessHook σ) (w w' : σ) : Prop where
  seat : c.seat.get w' = c.seat.get w
  state : hook.state w' = hook.state w

/-- What a firing comes to. -/
structure Fires (c : Coordinator σ κ) (hook : ProcessHook σ) (s : Stage σ) (visits : List (Visit κ)) (t : Stage σ) : Prop where
  /-- The firing returns. -/
  run : hook.fire c.exitAction s = .ok () t
  /-- The visits are the requests that it sends. -/
  firing : c.firing hook s = .ok visits t
  /-- They are stops of what is registered when the hook fires, each once, in reverse order. -/
  whom : visits.map Visit.whom = (c.seat.get s.world).registry.members.reverse
  stops : ∀ v ∈ visits, v.request = .stop
  /-- Before them the hook is marked as not installed, and nothing but them changes anything else. -/
  changes : ∃ w, c.seat.get w = { c.seat.get s.world with installed := false } ∧
    hook.state w = { hook.state s.world with armed := false } ∧ Passes (Visit.Happens c.component) w visits t.world

/-- What firings record is what is sent. -/
theorem firing_ok {s t : Stage σ} {visits : List (Visit κ)}
    (h : hook.beside.fire (c.onRecord hook).exitAction ⟨([], s.world), s.journal⟩ = .ok () ⟨(visits, t.world), t.journal⟩) :
    c.firing hook s = .ok visits t ∧ hook.fire c.exitAction s = .ok () t := by
  have hrecording := Act.recording_ok h
  have hmirrors : ∀ k, Lifecycle.Mirrors Prod.snd ((c.component k).recorded k) (c.component k) :=
    fun k => Lifecycle.recorded_mirrors k (c.component k)
  exact ⟨Act.bind_ok hrecording, (fire_mirrors hmirrors).of_recording hrecording⟩

/-- A firing of an armed hook stops what is registered, if the components return. -/
theorem fires_of_armed (hg : c.Guarded hook) {s : Stage σ} (harmed : (hook.state s.world).armed = true)
    (hreturns : ∀ k ∈ (c.seat.get s.world).registry.members, ((c.component k).request .stop).Returns) :
    ∃ visits t, c.Fires hook s visits t := by
  obtain ⟨u, hu, hstate, hseat⟩ := hg.honest.consume s
  -- the world in which the exit pass begins
  let w := c.seat.set { c.seat.get u.world with installed := false } u.world
  have hwseat : c.seat.get w = { c.seat.get s.world with installed := false } := by rw [hg.seat.get_set, hseat]
  have hwstate : hook.state w = { hook.state s.world with armed := false } := by rw [hg.honest.apart, hstate]
  have hmembers : (c.seat.get w).registry.members = (c.seat.get s.world).registry.members := by rw [hwseat]
  have hvisit : ∀ k ∈ (c.seat.get w).registry.members, ∀ p : Stage (List (Visit κ) × σ), True →
      ∃ reply q, ((c.component k).recorded k).request .stop p = .ok reply q ∧
        Visit.Recorded c.component ⟨k, .stop, reply⟩ p.world q.world ∧ True := by
    intro k hk p _
    obtain ⟨reply, q, hq⟩ := hreturns k (hmembers ▸ hk) ⟨p.world.2, p.journal⟩
    exact ⟨reply, _, Lifecycle.recorded_request hq, ⟨rfl, _, _, hq⟩, trivial⟩
  obtain ⟨visits, q, hrun, hpasses, hwhom, hstops, -⟩ := Batch.run_visits (I := fun _ => True) _ hvisit
    ⟨([], w), u.journal ++ [.stoppingOnExit (c.seat.get w).registry.size]⟩ trivial
  obtain ⟨hrecord, hhappens⟩ := hpasses.recorded
  have hpass : ∃ events, (c.onRecord hook).runExitAction ⟨([], w), u.journal⟩ = .ok () (q.tell events) :=
    runExitAction_apply hrun
  obtain ⟨events, hpass⟩ := hpass
  have hconsumed : hook.beside.consume ⟨(([] : List (Visit κ)), s.world), s.journal⟩ = .ok () ⟨([], u.world), u.journal⟩ :=
    Part.focus_ok hu
  have hmarked : hook.beside.fire (c.onRecord hook).exitAction ⟨([], s.world), s.journal⟩ = _ := fire_armed harmed hconsumed
  have hfire : hook.beside.fire (c.onRecord hook).exitAction ⟨([], s.world), s.journal⟩ =
      .ok () ⟨(visits, q.world.2), q.journal ++ events⟩ := by
    rw [hmarked, ← show q.world.1 = visits from hrecord]
    exact hpass
  obtain ⟨hfiring, hplain⟩ := firing_ok (t := ⟨q.world.2, q.journal ++ events⟩) hfire
  exact ⟨visits, _, hplain, hfiring, by rw [hwhom, hmembers]; rfl, hstops, w, hwseat, hwstate, hhappens⟩

/-- A hook that is not armed sends nothing. -/
theorem firing_unarmed {s : Stage σ} (h : (hook.state s.world).armed = false) :
    c.firing hook s = .ok [] s ∧ hook.fire c.exitAction s = .ok () s := by
  have hidle : ¬(hook.beside.state (([] : List (Visit κ)), s.world)).armed = true :=
    fun h' => Bool.false_ne_true (h.symm.trans h')
  exact firing_ok (fire_unarmed hidle)

/-- Where the components leave the coordinator alone, a firing changes nothing of it but the mark of the hook. -/
theorem Fires.quiet {s t : Stage σ} {visits : List (Visit κ)} (h : c.Fires hook s visits t)
    (hquiet : ∀ k ∈ (c.seat.get s.world).registry.members, ((c.component k).request .stop).Leads (c.Untouched hook)) :
    c.seat.get t.world = { c.seat.get s.world with installed := false } ∧ (hook.state t.world).armed = false := by
  obtain ⟨w, hseat, hstate, hpasses⟩ := h.changes
  -- no visit touches the coordinator, since it goes to a component that is registered
  have hvisit : ∀ v ∈ visits, ∀ x x', Visit.Happens c.component v x x' → c.Untouched hook w x → c.Untouched hook w x' := by
    intro v hv x x' hhappens hx
    have hk : v.whom ∈ (c.seat.get s.world).registry.members := by
      rw [← List.mem_reverse, ← h.whom]
      exact List.mem_map_of_mem hv
    obtain ⟨journal, journal', hrun⟩ := hhappens
    rw [h.stops v hv] at hrun
    have huntouched := hquiet _ hk ⟨x, journal⟩
    rw [Act.leaves_of_ok hrun] at huntouched
    exact ⟨huntouched.seat.trans hx.seat, huntouched.state.trans hx.state⟩
  have huntouched := hpasses.keeps hvisit ⟨rfl, rfl⟩
  exact ⟨by rw [huntouched.seat, hseat], by rw [huntouched.state, hstate]⟩

/-! ## Registrations that arm the hook -/

/-- To bring the hook in line, if it goes well, leaves the hook installed where something is registered. -/
theorem installed_of_sync (hg : c.Guarded hook) {s t : Stage σ} (h : c.sync s = .ok (.ok ()) t)
    (hcount : 0 < (c.seat.get t.world).count) : (c.seat.get t.world).installed = true := by
  obtain ⟨reply, w, journal, hsync, hcourse⟩ := sync_course hg s
  rw [hsync] at h
  cases h
  cases hcourse with
  | idle hidle => exact hidle.trans (decide_eq_true hcount)
  | install _ _ hseat _ => rw [hseat]; rfl
  | uninstall hc _ hseat _ =>
    rw [hseat] at hcount
    exact absurd hc (Nat.ne_of_gt hcount)

variable [DecidableEq κ]

/-- A registration operation that answers without an error. -/
def Accepts (c : Coordinator σ κ) (s t : Stage σ) : Enrolment κ → Prop
  | .add k => ∃ new, c.add k s = .ok (.ok new) t
  | .addAll ks => ∃ n, c.addAll ks s = .ok (.ok n) t
  | .remove k => ∃ had, c.remove k s = .ok (.ok had) t
  | .removeAll ks => ∃ n, c.removeAll ks s = .ok (.ok n) t
  | .clear => c.clear s = .ok (.ok ()) t

/-- The worlds in the midst of a run: those between one thing that happens and the next, those in which a firing has marked the
hook, and those in an exit pass, while components may call the coordinator back. -/
inductive Amid (c : Coordinator σ κ) (hook : ProcessHook σ) : σ → Prop where
  | between {w : σ} : c.Reachable hook w → Amid c hook w
  | marked {w w' : σ} : Amid c hook w → c.seat.get w' = { c.seat.get w with installed := false } →
      hook.state w' = { hook.state w with armed := false } → Amid c hook w'
  | called {w w' : σ} : Amid c hook w → c.Move hook w w' → Amid c hook w'

/-- Books, flag and hook agree in the midst of a run. -/
theorem Amid.agrees (hg : c.Guarded hook) (hstop : ∀ k, ((c.component k).request .stop).Leads (c.Move hook)) {w : σ}
    (hw : c.Amid hook w) : c.Agrees hook w := by
  induction hw with
  | between h => exact h.agrees hg hstop
  | marked _ hseat hstate ih => exact ih.of_consumed hseat hstate
  | called _ hmove ih => exact ih.of_move (enrol_keeps hg) hmove

/-- A registration operation that is accepted has brought the hook in line. -/
theorem Accepts.sync (hl : c.seat.Lawful) {e : Enrolment κ} {s t : Stage σ} (h : c.Accepts s t e) :
    ∃ u, c.sync u = .ok (.ok ()) t := by
  cases e with
  | add k =>
    obtain ⟨new, h⟩ := h
    obtain ⟨journal, hadd⟩ := add_apply hl k s
    exact ⟨_, Act.of_andThen_pure (hadd ▸ h)⟩
  | addAll ks =>
    obtain ⟨n, h⟩ := h
    obtain ⟨journal, hadd⟩ := addAll_apply hl ks s
    exact ⟨_, Act.of_andThen_pure (hadd ▸ h)⟩
  | remove k =>
    obtain ⟨had, h⟩ := h
    obtain ⟨journal, hremove⟩ := remove_apply hl k s
    exact ⟨_, Act.of_andThen_pure (hremove ▸ h)⟩
  | removeAll ks =>
    obtain ⟨n, h⟩ := h
    obtain ⟨journal, hremove⟩ := removeAll_apply hl ks s
    exact ⟨_, Act.of_andThen_pure (hremove ▸ h)⟩
  | clear =>
    obtain ⟨journal, hclear⟩ := clear_apply hl s
    exact ⟨_, hclear.symm.trans h⟩

theorem Accepts.leaves {e : Enrolment κ} {s t : Stage σ} (h : c.Accepts s t e) : (c.enrol e).leaves s = t := by
  cases e with
  | clear => exact (Act.leaves_discard _ s).trans (Act.leaves_of_ok h)
  | _ =>
    obtain ⟨_, h⟩ := h
    exact (Act.leaves_discard _ s).trans (Act.leaves_of_ok h)

/-- A registration operation that is accepted leaves an armed hook where something is registered. -/
theorem Accepts.armed (hg : c.Guarded hook) {e : Enrolment κ} {s t : Stage σ} (h : c.Accepts s t e)
    (hs : c.Agrees hook s.world) (hcount : 0 < (c.seat.get t.world).count) : (hook.state t.world).armed = true := by
  obtain ⟨u, hsync⟩ := h.sync hg.seat
  have ht : c.Agrees hook t.world := h.leaves ▸ enrol_keeps hg e s hs
  rw [← ht.flag]
  exact installed_of_sync hg hsync hcount

/-- A firing of the exit hook, whenever it was installed, stops what is registered when it comes: it sends one stop to each
component, in the reverse order of registration, returns whatever they answer, and leaves a coordinator that differs only in what
they did themselves and in that the hook is not installed. If they leave the coordinator alone, and nothing else is registered or
taken out, firing again sends nothing; but behind any registration operation that is accepted and after which something is
registered, be it one that a component makes while it is stopped, the next firing stops everything again. -/
theorem fire_stops_what_is_registered (hg : c.Guarded hook) :
    (∀ s : Stage σ, (hook.state s.world).armed = true →
      (∀ k ∈ (c.seat.get s.world).registry.members, ((c.component k).request .stop).Returns) →
      ∃ visits t, c.Fires hook s visits t ∧
        ((∀ k ∈ (c.seat.get s.world).registry.members, ((c.component k).request .stop).Leads (c.Untouched hook)) →
          c.manager.members t = .ok (c.seat.get s.world).registry.members t ∧
          c.registered t = .ok (c.seat.get s.world).count t ∧ c.isHookInstalled t = .ok false t ∧
          ∀ u : Stage σ, c.Untouched hook t.world u.world →
            c.firing hook u = .ok [] u ∧ hook.fire c.exitAction u = .ok () u)) ∧
    ((∀ k, ((c.component k).request .stop).Leads (c.Move hook)) →
      ∀ (e : Enrolment κ) (u v : Stage σ) (n : Nat), c.Amid hook u.world → c.Accepts u v e → c.registered v = .ok n v → 0 < n →
        (hook.state v.world).armed = true ∧
        ∀ s : Stage σ, c.Untouched hook v.world s.world →
          (∀ k ∈ (c.seat.get s.world).registry.members, ((c.component k).request .stop).Returns) →
          ∃ visits t, c.Fires hook s visits t) := by
  refine ⟨fun s harmed hreturns => ?_, fun hstop e u v n hu haccepts hregistered hn => ?_⟩
  · obtain ⟨visits, t, hfires⟩ := fires_of_armed hg harmed hreturns
    refine ⟨visits, t, hfires, fun hquiet => ?_⟩
    obtain ⟨hseat, harmed'⟩ := hfires.quiet hquiet
    refine ⟨?_, ?_, ?_, fun u hu => firing_unarmed (by rw [hu.state, harmed'])⟩
    · rw [show (c.seat.get s.world).registry = (c.seat.get t.world).registry by rw [hseat]]
      rfl
    · rw [show (c.seat.get s.world).count = (c.seat.get t.world).count by rw [hseat]]
      rfl
    · rw [show false = (c.seat.get t.world).installed by rw [hseat]]
      rfl
  · have hcount : (c.seat.get v.world).count = n := by
      injection hregistered
    have harmed := haccepts.armed hg (hu.agrees hg hstop) (hcount.symm ▸ hn)
    exact ⟨harmed, fun s hs hreturns => fires_of_armed hg (by rw [hs.state, harmed]) hreturns⟩

namespace Rehearsal

/-- When it is stopped, component 0 registers component 7, and every other one fails. -/
def recruiting : Nat → Act World (Reply Unit)
  | 0 => Act.andThen ((staffed fun _ => return .ok ()).add 7) fun _ => return .ok ()
  | _ => return .error (.io "stuck")

def recruiter : Coordinator World Nat :=
  staffed recruiting

/-- One thing after the other, from a fresh coordinator on. -/
def behind (happenings : List (Happening Nat)) : Stage World :=
  happenings.foldl (fun s h => (recruiter.undergo HookLedger.processHook h).leaves s) ⟨([], {}, {}), []⟩

/-- Components 0 and 2 are registered; component 1 was, when the hook was installed. -/
def manned : Stage World :=
  behind [.enrol (.addAll [0, 1]), .enrol (.add 2), .enrol (.remove 1)]

/-- The hook has fired. -/
def fired : Stage World :=
  behind [.enrol (.addAll [0, 1]), .enrol (.add 2), .enrol (.remove 1), .fire]

/-- What is registered behind an operation that was accepted. -/
def booked {α : Type} : EStateM.Result Interruption (Stage World) (Reply α) → Option (Nat × List Nat)
  | .ok (.ok _) v => some ((recruiter.seat.get v.world).count, (recruiter.seat.get v.world).registry.members)
  | _ => none

theorem guarded_staffed (stop : Nat → Act World (Reply Unit)) : (staffed stop).Guarded HookLedger.processHook where
  seat := Part.lawful_snd.comp Part.lawful_snd
  hook_eq := rfl
  honest := HookLedger.honest_processHook

theorem guarded_recruiter : recruiter.Guarded HookLedger.processHook :=
  guarded_staffed recruiting

theorem recruiting_returns (k : Nat) : ((recruiter.component k).request .stop).Returns := by
  cases k with
  | zero => exact (add_returns (guarded_staffed _) 7).andThen fun _ => .pure _
  | succ k => exact .pure _

theorem recruiting_leads (k : Nat) : ((recruiter.component k).request .stop).Leads (recruiter.Move HookLedger.processHook) := by
  intro s
  cases k with
  | zero =>
    have hleaves : ((recruiter.component 0).request .stop).leaves s = (recruiter.enrol (.add 7)).leaves s :=
      (Act.leaves_andThen_pure _ _ s).trans (Act.leaves_discard _ s).symm
    rw [hleaves]
    exact Relation.ReflTransGen.single (Step.enrol (.add 7) s)
  | succ k => exact Relation.ReflTransGen.refl

end Rehearsal

/-- `fire_stops_what_is_registered` in the rehearsal. A firing stops components 2 and 0, of which the latter registers component 7.
Behind the removal of component 2, the next firing stops components 7 and 0. Where component 2 is alone, a second firing sends
nothing. -/
theorem fire_stops_what_is_registered_rehearsal :
    (∃ visits t, Rehearsal.recruiter.Fires HookLedger.processHook Rehearsal.manned visits t ∧ visits.map Visit.whom = [2, 0]) ∧
    (∃ visits t, Rehearsal.recruiter.Fires HookLedger.processHook (Rehearsal.behind [.enrol (.add 2)]) visits t ∧
      visits.map Visit.whom = [2] ∧ Rehearsal.recruiter.firing HookLedger.processHook t = .ok [] t) ∧
    ∃ v visits t, Rehearsal.recruiter.Accepts Rehearsal.fired v (.remove 2) ∧
      Rehearsal.recruiter.Fires HookLedger.processHook v visits t ∧ visits.map Visit.whom = [7, 0] := by
  obtain ⟨hfirst, hagain⟩ := fire_stops_what_is_registered Rehearsal.guarded_recruiter
  refine ⟨?_, ?_, ?_⟩
  · obtain ⟨visits, t, hfires, -⟩ := hfirst Rehearsal.manned (by decide +kernel) fun k _ => Rehearsal.recruiting_returns k
    exact ⟨visits, t, hfires, hfires.whom.trans (by decide +kernel)⟩
  · have hmembers : (Rehearsal.recruiter.seat.get (Rehearsal.behind [.enrol (.add 2)]).world).registry.members = [2] := by
      decide +kernel
    obtain ⟨visits, t, hfires, hquiet⟩ := hfirst (Rehearsal.behind [.enrol (.add 2)]) (by decide +kernel)
      fun k _ => Rehearsal.recruiting_returns k
    have halone : ∀ k ∈ (Rehearsal.recruiter.seat.get (Rehearsal.behind [.enrol (.add 2)]).world).registry.members,
        ((Rehearsal.recruiter.component k).request .stop).Leads (Rehearsal.recruiter.Untouched HookLedger.processHook) := by
      rw [hmembers]
      intro k hk s
      rw [List.mem_singleton.1 hk]
      exact ⟨rfl, rfl⟩
    obtain ⟨-, -, -, hidle⟩ := hquiet halone
    exact ⟨visits, t, hfires, by rw [hfires.whom, hmembers]; rfl, (hidle t ⟨rfl, rfl⟩).1⟩
  · have hbooked : Rehearsal.booked (Rehearsal.recruiter.remove 2 Rehearsal.fired) = some (2, [0, 7]) := by decide +kernel
    cases hremove : Rehearsal.recruiter.remove 2 Rehearsal.fired with
    | error i v =>
      rw [hremove] at hbooked
      cases hbooked
    | ok reply v =>
      rw [hremove] at hbooked
      cases reply with
      | error e => cases hbooked
      | ok had =>
        obtain ⟨hcount, hmembers⟩ := Prod.mk.inj (Option.some.inj hbooked)
        have hfired : Rehearsal.recruiter.Reachable HookLedger.processHook Rehearsal.fired.world :=
          Reachable.after _ (.fresh rfl rfl)
        obtain ⟨-, hnext⟩ := hagain Rehearsal.recruiting_leads (.remove 2) Rehearsal.fired v _ (.between hfired)
          ⟨had, hremove⟩ rfl (by rw [hcount]; decide)
        obtain ⟨visits, t, hfires⟩ := hnext v ⟨rfl, rfl⟩ fun k _ => Rehearsal.recruiting_returns k
        exact ⟨v, visits, t, ⟨had, hremove⟩, hfires, by rw [hfires.whom, hmembers]; rfl⟩

end Coordinator

end Supervision

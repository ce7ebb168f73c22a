import Supervision.Proofs.ExitHook
import Supervision.Proofs.Manager
import Mathlib.Logic.Relation

/-!
# Runs of a coordinator

Each registration operation of a coordinator is a change of what it keeps, said by `Enrolment.registry`, and then
`Coordinator.sync`. `Coordinator.Reachable` are the worlds of a run: registration operations, exit passes and firings of the
hook in any order, each completed or unwound, with anything in between that leaves the coordinator and its hook alone. Within
an exit pass the components may call the coordinator back (`Coordinator.Move`).
-/

namespace Supervision

variable {σ κ : Type}

/-- An operation that changes the registrations of a coordinator. -/
inductive Enrolment (κ : Type) where
  | add (k : κ)
  | addAll (ks : List κ)
  | remove (k : κ)
  | removeAll (ks : List κ)
  | clear

/-- What happens to a coordinator: a registration operation, an exit pass on request, or a firing of its hook. -/
inductive Happening (κ : Type) where
  | enrol (e : Enrolment κ)
  | exitPass
  | fire

/-- The registry that a registration operation leaves. -/
def Enrolment.registry [DecidableEq κ] : Enrolment κ → Registry κ → Registry κ
  | add k, registry => registry.insert k
  | addAll ks, registry => ks.foldl .insert registry
  | remove k, registry => registry.erase k
  | removeAll ks, registry => ks.foldl .erase registry
  | clear, _ => .empty

/-- What is kept where a registration operation is booked and the hook not yet in line: the registry that it leaves, counted. -/
def Enrolment.booked [DecidableEq κ] (e : Enrolment κ) (r : Registration κ) : Registration κ :=
  { r with registry := e.registry r.registry, count := (e.registry r.registry).size }

namespace Coordinator

/-- A coordinator has a hook that keeps its word, and each has a place of its own. -/
structure Guarded (c : Coordinator σ κ) (hook : ProcessHook σ) : Prop where
  seat : c.seat.Lawful
  hook_eq : c.hook = hook.toExitHook
  honest : hook.Honest c.seat

/-- Books, flag and hook agree: the count is the number of registrations, the flag says whether the hook is armed, and every
call of the hook was that of a careful owner. -/
structure Agrees (c : Coordinator σ κ) (hook : ProcessHook σ) (w : σ) : Prop where
  count : (c.seat.get w).count = (c.seat.get w).registry.size
  flag : (c.seat.get w).installed = (hook.state w).armed
  careful : ∀ call ∈ (hook.state w).calls, call.Careful

/-! ## Bringing the hook in line -/

section Sync

variable {c : Coordinator σ κ} {s t : Stage σ} {e : SupervisorError}

/-- Where something is registered and no hook installed, the hook is installed. -/
theorem sync_install (hc : 0 < (c.seat.get s.world).count) (hf : (c.seat.get s.world).installed = false)
    (h : c.hook.install s = .ok (.ok ()) t) :
    c.sync s = .ok (.ok ()) ⟨c.seat.set { c.seat.get t.world with installed := true } t.world,
      t.journal ++ [.exitHookInstalled (c.seat.get s.world).count]⟩ := by
  rw [sync, Act.bind_ok (Part.read_apply c.seat s), if_pos ⟨hc, hf⟩, Act.andThen_ok h]
  rfl

/-- A refused installation is the answer, and all stays as the hook left it. -/
theorem sync_install_refused (hc : 0 < (c.seat.get s.world).count) (hf : (c.seat.get s.world).installed = false)
    (h : c.hook.install s = .ok (.error e) t) : c.sync s = .ok (.error e) t := by
  rw [sync, Act.bind_ok (Part.read_apply c.seat s), if_pos ⟨hc, hf⟩, Act.andThen_error h]

/-- Where nothing is registered and a hook installed, the hook is removed. -/
theorem sync_uninstall (hc : (c.seat.get s.world).count = 0) (hf : (c.seat.get s.world).installed = true)
    (h : c.hook.uninstall s = .ok (.ok ()) t) :
    c.sync s = .ok (.ok ()) ⟨c.seat.set { c.seat.get t.world with installed := false } t.world,
      t.journal ++ [.exitHookRemoved]⟩ := by
  rw [sync, Act.bind_ok (Part.read_apply c.seat s), if_neg (by simp [hf]), if_pos ⟨hc, hf⟩, Act.andThen_ok h]
  rfl

/-- A refused removal is the answer, and all stays as the hook left it. -/
theorem sync_uninstall_refused (hc : (c.seat.get s.world).count = 0) (hf : (c.seat.get s.world).installed = true)
    (h : c.hook.uninstall s = .ok (.error e) t) : c.sync s = .ok (.error e) t := by
  rw [sync, Act.bind_ok (Part.read_apply c.seat s), if_neg (by simp [hf]), if_pos ⟨hc, hf⟩, Act.andThen_error h]

/-- Where the flag says whether something is registered, the hook is left alone. -/
theorem sync_idle (h : (c.seat.get s.world).installed = decide (0 < (c.seat.get s.world).count)) :
    c.sync s = .ok (.ok ()) ⟨s.world,
      s.journal ++ [.exitHookUnchanged (c.seat.get s.world).count (c.seat.get s.world).installed]⟩ := by
  rw [sync, Act.bind_ok (Part.read_apply c.seat s), if_neg, if_neg]
  · rfl
  · rintro ⟨hc, hf⟩
    rw [h, hc] at hf
    cases hf
  · rintro ⟨hc, hf⟩
    rw [h] at hf
    exact absurd hc (of_decide_eq_false hf)

end Sync

/-- One careful call more, and the flag as the hook is: all is in agreement again. -/
theorem Agrees.of_call {c : Coordinator σ κ} {hook : ProcessHook σ} {w w' : σ} {call : HookCall} (h : c.Agrees hook w)
    (hcall : call.Careful) (hcount : (c.seat.get w').count = (c.seat.get w').registry.size)
    (hflag : (c.seat.get w').installed = (hook.state w').armed)
    (hcalls : (hook.state w').calls = (hook.state w).calls ++ [call]) : c.Agrees hook w' := by
  refine ⟨hcount, hflag, fun x hx => ?_⟩
  rw [hcalls, List.mem_append, List.mem_singleton] at hx
  rcases hx with hx | rfl
  · exact h.careful x hx
  · exact hcall

/-- The course of bringing the hook in line: it is left alone, installed or removed, and what a refused call leaves is as it was. -/
inductive Synced (c : Coordinator σ κ) (hook : ProcessHook σ) (w : σ) : Reply Unit → σ → Prop where
  | idle : (c.seat.get w).installed = decide (0 < (c.seat.get w).count) → Synced c hook w (.ok ()) w
  | install {reply : Reply Unit} {w' : σ} : 0 < (c.seat.get w).count → (c.seat.get w).installed = false →
      c.seat.get w' = { c.seat.get w with installed := reply.isOk } → hook.state w' = (hook.state w).installed reply →
      Synced c hook w reply w'
  | uninstall {reply : Reply Unit} {w' : σ} : (c.seat.get w).count = 0 → (c.seat.get w).installed = true →
      c.seat.get w' = { c.seat.get w with installed := !reply.isOk } → hook.state w' = (hook.state w).uninstalled reply →
      Synced c hook w reply w'

/-- To bring the hook in line takes one of these courses. -/
theorem sync_course {c : Coordinator σ κ} {hook : ProcessHook σ} (hg : c.Guarded hook) (s : Stage σ) :
    ∃ reply w journal, c.sync s = .ok reply ⟨w, journal⟩ ∧ c.Synced hook s.world reply w := by
  -- to mark the hook as it is marked changes nothing
  have hmark : ∀ b, (c.seat.get s.world).installed = b → c.seat.get s.world = { c.seat.get s.world with installed := b } :=
    fun b hb => hb ▸ rfl
  by_cases hidle : (c.seat.get s.world).installed = decide (0 < (c.seat.get s.world).count)
  · exact ⟨_, _, _, sync_idle hidle, .idle hidle⟩
  · cases hf : (c.seat.get s.world).installed with
    | false =>
      have hc : 0 < (c.seat.get s.world).count := by
        rw [hf] at hidle
        exact Nat.pos_of_ne_zero fun h0 => hidle (by simp [h0])
      obtain ⟨reply, t, ht, hstate, hseat⟩ := hg.honest.install s
      rw [← hg.hook_eq] at ht
      cases reply with
      | ok _ =>
        have hget := hg.seat.get_set { c.seat.get t.world with installed := true } t.world
        have hapart := hg.honest.apart { c.seat.get t.world with installed := true } t.world
        exact ⟨_, _, _, sync_install hc hf ht, .install hc hf (by rw [hget, hseat]; rfl) (hapart.trans hstate)⟩
      | error e =>
        exact ⟨_, t.world, t.journal, sync_install_refused hc hf ht, .install hc hf (hseat.trans (hmark _ hf)) hstate⟩
    | true =>
      have hc : (c.seat.get s.world).count = 0 := by
        rw [hf] at hidle
        exact Nat.eq_zero_of_not_pos fun h0 => hidle (by simp [h0])
      obtain ⟨reply, t, ht, hstate, hseat⟩ := hg.honest.uninstall s
      rw [← hg.hook_eq] at ht
      cases reply with
      | ok _ =>
        have hget := hg.seat.get_set { c.seat.get t.world with installed := false } t.world
        have hapart := hg.honest.apart { c.seat.get t.world with installed := false } t.world
        exact ⟨_, _, _, sync_uninstall hc hf ht, .uninstall hc hf (by rw [hget, hseat]; rfl) (hapart.trans hstate)⟩
      | error e =>
        exact ⟨_, t.world, t.journal, sync_uninstall_refused hc hf ht, .uninstall hc hf (hseat.trans (hmark _ hf)) hstate⟩

/-- To bring the hook in line keeps books, flag and hook in agreement: the hook is called only where it is as the flag says. -/
theorem sync_keeps {c : Coordinator σ κ} {hook : ProcessHook σ} (hg : c.Guarded hook) : c.sync.Keeps (c.Agrees hook) := by
  intro s hs
  obtain ⟨reply, w, journal, hsync, hcourse⟩ := sync_course hg s
  rw [Act.leaves_of_ok hsync]
  cases hcourse with
  | idle _ => exact hs
  | install _ hf hseat hstate =>
    have hcall : HookCall.Careful (.install (hook.state s.world).armed) := hs.flag ▸ hf
    refine hs.of_call hcall (by rw [hseat]; exact hs.count) ?_ (by rw [hstate]; rfl)
    rw [hseat, hstate]
    cases reply with
    | ok _ => rfl
    | error e => exact hf.symm.trans hs.flag
  | uninstall _ hf hseat hstate =>
    have hcall : HookCall.Careful (.uninstall (hook.state s.world).armed) := hs.flag ▸ hf
    refine hs.of_call hcall (by rw [hseat]; exact hs.count) ?_ (by rw [hstate]; rfl)
    rw [hseat, hstate]
    cases reply with
    | ok _ => rfl
    | error e => exact hf.symm.trans hs.flag

/-! ## What an operation changes before the hook is brought in line -/

theorem lawful_registryPart : (Registration.registryPart : Part (Registration κ) (Registry κ)).Lawful :=
  ⟨fun _ _ => rfl, fun _ => rfl, fun _ _ _ => rfl⟩

/-- To change several identities one after the other is to change the registry so; the answer counts the changes that had an
effect. -/
theorem tally_apply {seat : Part σ (Registry κ)} (hl : seat.Lawful) (step : κ → Act σ Bool)
    (f : Registry κ → κ → Registry κ) (done : Registry κ → κ → Bool)
    (hstep : ∀ k s, ∃ journal,
      step k s = .ok (done (seat.get s.world) k) ⟨seat.set (f (seat.get s.world) k) s.world, journal⟩)
    (ks : List κ) (s : Stage σ) :
    ∃ journal, tally step ks s = .ok (Registry.effects f done (seat.get s.world) ks)
      ⟨seat.set (ks.foldl f (seat.get s.world)) s.world, journal⟩ := by
  induction ks generalizing s with
  | nil => exact ⟨s.journal, by rw [List.foldl_nil, hl.set_get]; rfl⟩
  | cons k ks ih =>
    obtain ⟨j, hj⟩ := hstep k s
    obtain ⟨j', hn⟩ := ih ⟨seat.set (f (seat.get s.world) k) s.world, j⟩
    simp only [hl.get_set, hl.set_set] at hn
    refine ⟨j', ?_⟩
    rw [tally, Act.bind_ok hj, Act.bind_ok hn, Registry.effects]
    cases done (seat.get s.world) k
    · simp
    · simp [Nat.add_comm]

variable [DecidableEq κ]

variable {c : Coordinator σ κ}

/-- A registration is booked, and then the hook brought in line. -/
theorem add_apply (hl : c.seat.Lawful) (k : κ) (s : Stage σ) :
    ∃ journal, c.add k s = Act.andThen c.sync (fun _ => pure (.ok (!(c.seat.get s.world).registry.contains k)))
      ⟨c.seat.set { c.seat.get s.world with
          registry := (c.seat.get s.world).registry.insert k
          count := (c.seat.get s.world).count + (!(c.seat.get s.world).registry.contains k).toNat } s.world, journal⟩ := by
  obtain ⟨j, hj⟩ := c.manager.add_apply (hl.comp lawful_registryPart) k s
  refine ⟨j, ?_⟩
  rw [add, Act.bind_ok hj]
  simp only [manager, Part.comp, Registration.registryPart]
  by_cases h : (c.seat.get s.world).registry.contains k = true
  · simp [h]
  · simp [h, recount, Act.bind_apply, hl.get_set, hl.set_set]

/-- To register a component returns, whatever the hook answers. -/
theorem add_returns {hook : ProcessHook σ} (hg : c.Guarded hook) (k : κ) : (c.add k).Returns := by
  have hsync : c.sync.Returns := fun s =>
    let ⟨reply, _, _, h, _⟩ := sync_course hg s
    ⟨reply, _, h⟩
  intro s
  obtain ⟨journal, hadd⟩ := add_apply hg.seat k s
  rw [hadd]
  exact hsync.andThen (fun _ => .pure _) _

/-- The removal of a registration is booked, and then the hook brought in line. -/
theorem remove_apply (hl : c.seat.Lawful) (k : κ) (s : Stage σ) :
    ∃ journal, c.remove k s = Act.andThen c.sync (fun _ => pure (.ok ((c.seat.get s.world).registry.contains k)))
      ⟨c.seat.set { c.seat.get s.world with
          registry := (c.seat.get s.world).registry.erase k
          count := (c.seat.get s.world).count - ((c.seat.get s.world).registry.contains k).toNat } s.world, journal⟩ := by
  obtain ⟨j, hj⟩ := c.manager.remove_apply (hl.comp lawful_registryPart) k s
  refine ⟨j, ?_⟩
  rw [remove, Act.bind_ok hj]
  simp only [manager, Part.comp, Registration.registryPart]
  by_cases h : (c.seat.get s.world).registry.contains k = true
  · simp [h, recount, Act.bind_apply, hl.get_set, hl.set_set]
  · simp [h]

/-- Several registrations are booked, and only then the hook brought in line. -/
theorem addAll_apply (hl : c.seat.Lawful) (ks : List κ) (s : Stage σ) :
    ∃ journal, c.addAll ks s =
      Act.andThen c.sync
        (fun _ => pure (.ok (Registry.effects .insert (fun r k => !r.contains k) (c.seat.get s.world).registry ks)))
        ⟨c.seat.set { c.seat.get s.world with
            registry := ks.foldl .insert (c.seat.get s.world).registry
            count := (c.seat.get s.world).count +
              Registry.effects .insert (fun r k => !r.contains k) (c.seat.get s.world).registry ks } s.world, journal⟩ := by
  have hm := hl.comp (lawful_registryPart (κ := κ))
  obtain ⟨j, hj⟩ := tally_apply hm c.manager.add .insert (fun r k => !r.contains k) (c.manager.add_apply hm) ks s
  refine ⟨j, ?_⟩
  rw [addAll, Act.bind_ok hj]
  simp [Part.comp, Registration.registryPart, recount, Act.bind_apply, hl.get_set, hl.set_set]

/-- The removal of several registrations is booked, and only then the hook brought in line. -/
theorem removeAll_apply (hl : c.seat.Lawful) (ks : List κ) (s : Stage σ) :
    ∃ journal, c.removeAll ks s =
      Act.andThen c.sync
        (fun _ => pure (.ok (Registry.effects Registry.erase Registry.contains (c.seat.get s.world).registry ks)))
        ⟨c.seat.set { c.seat.get s.world with
            registry := ks.foldl .erase (c.seat.get s.world).registry
            count := (c.seat.get s.world).count -
              Registry.effects Registry.erase Registry.contains (c.seat.get s.world).registry ks } s.world, journal⟩ := by
  have hm := hl.comp (lawful_registryPart (κ := κ))
  obtain ⟨j, hj⟩ := tally_apply hm c.manager.remove .erase Registry.contains (c.manager.remove_apply hm) ks s
  refine ⟨j, ?_⟩
  rw [removeAll, Act.bind_ok hj]
  simp [Part.comp, Registration.registryPart, recount, Act.bind_apply, hl.get_set, hl.set_set]

omit [DecidableEq κ] in
/-- Books, registrations and all are emptied, and then the hook brought in line. -/
theorem clear_apply (hl : c.seat.Lawful) (s : Stage σ) :
    ∃ journal, c.clear s =
      c.sync ⟨c.seat.set { c.seat.get s.world with registry := .empty, count := 0 } s.world, journal⟩ := by
  refine ⟨s.journal ++ [.cleared (c.seat.get s.world).registry.size], ?_⟩
  rw [clear, Act.bind_ok (c.manager.clear_apply s)]
  simp [manager, Part.comp, Registration.registryPart, recount, Act.bind_apply, hl.get_set, hl.set_set]

section Books

/-! Where the books count the registrations, they do so behind every operation. -/

variable {s : Stage σ} (hcount : (c.seat.get s.world).count = (c.seat.get s.world).registry.size)
include hcount

theorem add_books (hl : c.seat.Lawful) (k : κ) :
    ∃ journal, c.add k s = Act.andThen c.sync (fun _ => pure (.ok (!(c.seat.get s.world).registry.contains k)))
      ⟨c.seat.set ((Enrolment.add k).booked (c.seat.get s.world)) s.world, journal⟩ := by
  obtain ⟨j, hj⟩ := add_apply hl k s
  rw [hcount, ← Registry.size_insert] at hj
  exact ⟨j, hj⟩

theorem addAll_books (hl : c.seat.Lawful) (ks : List κ) :
    ∃ journal, c.addAll ks s =
      Act.andThen c.sync
        (fun _ => pure (.ok (Registry.effects .insert (fun r k => !r.contains k) (c.seat.get s.world).registry ks)))
        ⟨c.seat.set ((Enrolment.addAll ks).booked (c.seat.get s.world)) s.world, journal⟩ := by
  obtain ⟨j, hj⟩ := addAll_apply hl ks s
  rw [hcount, ← Registry.size_foldl_insert] at hj
  exact ⟨j, hj⟩

theorem remove_books (hl : c.seat.Lawful) (k : κ) :
    ∃ journal, c.remove k s = Act.andThen c.sync (fun _ => pure (.ok ((c.seat.get s.world).registry.contains k)))
      ⟨c.seat.set ((Enrolment.remove k).booked (c.seat.get s.world)) s.world, journal⟩ := by
  obtain ⟨j, hj⟩ := remove_apply hl k s
  have hsize := (c.seat.get s.world).registry.size_erase k
  rw [hcount, ← Nat.eq_sub_of_add_eq hsize] at hj
  exact ⟨j, hj⟩

theorem removeAll_books (hl : c.seat.Lawful) (ks : List κ) :
    ∃ journal, c.removeAll ks s =
      Act.andThen c.sync
        (fun _ => pure (.ok (Registry.effects Registry.erase Registry.contains (c.seat.get s.world).registry ks)))
        ⟨c.seat.set ((Enrolment.removeAll ks).booked (c.seat.get s.world)) s.world, journal⟩ := by
  obtain ⟨j, hj⟩ := removeAll_apply hl ks s
  have hsize := (c.seat.get s.world).registry.size_foldl_erase ks
  rw [hcount, ← Nat.eq_sub_of_add_eq hsize] at hj
  exact ⟨j, hj⟩

end Books

/-! ## Exit passes and firings -/

omit [DecidableEq κ] in
/-- An exit pass is a stop of the manager, which may answer as it pleases. -/
theorem runExitAction_apply {s t : Stage σ} {reply : Reply Unit}
    (h : c.manager.request .stop (s.tell [.stoppingOnExit (c.seat.get s.world).registry.size]) = .ok reply t) :
    ∃ events, c.runExitAction s = .ok () (t.tell events) := by
  have hsize : c.manager.size s = .ok (c.seat.get s.world).registry.size s := rfl
  have hlog : Act.log (.stoppingOnExit (c.seat.get s.world).registry.size) s =
      .ok () (s.tell [.stoppingOnExit (c.seat.get s.world).registry.size]) := Act.log_apply _ s
  rw [runExitAction, Act.bind_ok hsize, Act.bind_ok hlog, Act.bind_ok h]
  cases reply with
  | ok _ => exact ⟨[], by rw [Stage.tell_nil]; rfl⟩
  | error e => exact ⟨[.shutdownIncomplete e], rfl⟩

omit [DecidableEq κ] in
/-- A firing of an armed hook marks it as not installed, and then makes an exit pass. -/
theorem fire_armed {hook : ProcessHook σ} {s t : Stage σ} (harmed : (hook.state s.world).armed = true)
    (h : hook.consume s = .ok () t) :
    hook.fire c.exitAction s =
      c.runExitAction ⟨c.seat.set { c.seat.get t.world with installed := false } t.world, t.journal⟩ := by
  rw [ProcessHook.fire, Act.bind_ok (Act.world_apply s), if_pos harmed, Act.bind_ok h, exitAction]
  rfl

omit [DecidableEq κ] in
/-- A hook that is not armed does not fire. -/
theorem fire_unarmed {hook : ProcessHook σ} {s : Stage σ} (h : ¬(hook.state s.world).armed = true) :
    hook.fire c.exitAction s = .ok () s := by
  rw [ProcessHook.fire, Act.bind_ok (Act.world_apply s), if_neg h]
  rfl

/-! ## Runs -/

/-- Carries a registration operation out. -/
def enrol (c : Coordinator σ κ) : Enrolment κ → Act σ Unit
  | .add k => discard (c.add k)
  | .addAll ks => discard (c.addAll ks)
  | .remove k => discard (c.remove k)
  | .removeAll ks => discard (c.removeAll ks)
  | .clear => discard c.clear

/-- Where the books count the registrations, a registration operation books the registry that it leaves with its size, and then
brings the hook in line. -/
theorem enrol_leaves (hl : c.seat.Lawful) (e : Enrolment κ) {s : Stage σ}
    (hcount : (c.seat.get s.world).count = (c.seat.get s.world).registry.size) :
    ∃ journal, (c.enrol e).leaves s = c.sync.leaves ⟨c.seat.set (e.booked (c.seat.get s.world)) s.world, journal⟩ := by
  cases e with
  | add k =>
    obtain ⟨j, hj⟩ := add_books hcount hl k
    exact ⟨j, by rw [enrol, Act.leaves_discard, Act.leaves_congr hj, Act.leaves_andThen_pure]⟩
  | addAll ks =>
    obtain ⟨j, hj⟩ := addAll_books hcount hl ks
    exact ⟨j, by rw [enrol, Act.leaves_discard, Act.leaves_congr hj, Act.leaves_andThen_pure]⟩
  | remove k =>
    obtain ⟨j, hj⟩ := remove_books hcount hl k
    exact ⟨j, by rw [enrol, Act.leaves_discard, Act.leaves_congr hj, Act.leaves_andThen_pure]⟩
  | removeAll ks =>
    obtain ⟨j, hj⟩ := removeAll_books hcount hl ks
    exact ⟨j, by rw [enrol, Act.leaves_discard, Act.leaves_congr hj, Act.leaves_andThen_pure]⟩
  | clear =>
    obtain ⟨j, hj⟩ := clear_apply hl s
    refine ⟨j, ?_⟩
    rw [enrol, Act.leaves_discard, Act.leaves_congr hj]
    rfl

/-- Lets something happen to a coordinator and its hook. -/
def undergo (c : Coordinator σ κ) (hook : ProcessHook σ) : Happening κ → Act σ Unit
  | .enrol e => c.enrol e
  | .exitPass => c.runExitAction
  | .fire => hook.fire c.exitAction

/-- One step of what may go on around a coordinator: a registration operation, or something that leaves the coordinator and
its hook alone. -/
inductive Step (c : Coordinator σ κ) (hook : ProcessHook σ) : σ → σ → Prop where
  | enrol (e : Enrolment κ) (s : Stage σ) : Step c hook s.world ((c.enrol e).leaves s).world
  | elsewhere {w w' : σ} : c.seat.get w' = c.seat.get w → hook.state w' = hook.state w → Step c hook w w'

/-- What a component may do to a coordinator when it is stopped: any number of steps. -/
def Move (c : Coordinator σ κ) (hook : ProcessHook σ) : σ → σ → Prop :=
  Relation.ReflTransGen (c.Step hook)

/-- The worlds of a run. What happens may be completed or unwound. -/
inductive Reachable (c : Coordinator σ κ) (hook : ProcessHook σ) : σ → Prop where
  | fresh {w : σ} : c.seat.get w = {} → hook.state w = {} → Reachable c hook w
  | elsewhere {w w' : σ} : Reachable c hook w → c.seat.get w' = c.seat.get w → hook.state w' = hook.state w →
      Reachable c hook w'
  | undergo (h : Happening κ) {s : Stage σ} : Reachable c hook s.world →
      Reachable c hook ((c.undergo hook h).leaves s).world

end Coordinator

end Supervision

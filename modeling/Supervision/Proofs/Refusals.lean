import Supervision.Proofs.Firing

/-!
# Registrations with a hook that refuses

A registration operation books what it was asked for, and only then brings the hook in line. That takes one call of the hook or
none (`Registration.owed`). The answer to the call decides the answer of the operation and the flag, and nothing else
(`Coordinator.Performed`). A refused call is owed as before, so that the operations that follow make it again
(`Coordinator.Retries`).

`ExitHook.heard` keeps the calls of a hook on record, with the answers to them.
-/

namespace Supervision

variable {σ κ α β : Type}

/-! ## What an operation answers -/

namespace Registry

/-- A larger registry has as many identities more as it has that the smaller one has not. -/
theorem size_filter_of_subset [DecidableEq κ] {small large : Registry κ} (h : ∀ k ∈ small.members, k ∈ large.members) :
    (large.members.filter (· ∉ small.members)).length + small.size = large.size := by
  have hperm : (large.members.filter (· ∈ small.members)).Perm small.members := by
    refine (List.perm_ext_iff_of_nodup (large.nodup.filter _) small.nodup).2 fun k => ?_
    rw [List.mem_filter, decide_eq_true_eq]
    exact ⟨And.right, fun hk => ⟨h k hk, hk⟩⟩
  have hsplit := List.length_eq_length_filter_add (l := large.members) fun k => decide (k ∈ small.members)
  rw [hperm.length_eq] at hsplit
  simp only [← decide_not] at hsplit
  rw [size, size, hsplit, Nat.add_comm]

theorem mem_insert_of_mem [DecidableEq κ] {registry : Registry κ} {k : κ} (hk : k ∈ registry.members) (k' : κ) :
    k ∈ (registry.insert k').members := by
  rw [members_insert]
  split
  · exact hk
  · exact List.mem_append_left _ hk

/-- Registrations take nothing out. -/
theorem mem_foldl_insert_of_mem [DecidableEq κ] {registry : Registry κ} {k : κ} (hk : k ∈ registry.members) (ks : List κ) :
    k ∈ (ks.foldl insert registry).members := by
  induction ks generalizing registry with
  | nil => exact hk
  | cons k' ks ih => exact ih (mem_insert_of_mem hk k')

theorem mem_of_mem_erase [DecidableEq κ] {registry : Registry κ} {k k' : κ} (hk : k ∈ (registry.erase k').members) :
    k ∈ registry.members :=
  (List.mem_filter.1 hk).1

/-- To take out registers nothing. -/
theorem mem_of_mem_foldl_erase [DecidableEq κ] {registry : Registry κ} {k : κ} {ks : List κ}
    (hk : k ∈ (ks.foldl erase registry).members) : k ∈ registry.members := by
  induction ks generalizing registry with
  | nil => exact hk
  | cons k' ks ih => exact mem_of_mem_erase (ih hk)

end Registry

/-- What a registration operation answers. -/
inductive Outcome where
  | whether (changed : Bool)
  | many (changed : Nat)
  | done
deriving DecidableEq

namespace Enrolment

variable [DecidableEq κ]

/-- The components that an operation registers and that were not. -/
def gained (e : Enrolment κ) (registry : Registry κ) : List κ :=
  (e.registry registry).members.filter (· ∉ registry.members)

/-- The components that an operation takes out. -/
def lost (e : Enrolment κ) (registry : Registry κ) : List κ :=
  registry.members.filter (· ∉ (e.registry registry).members)

/-- What an operation has to answer: whether something was new, or taken out, or how much. -/
def outcome (e : Enrolment κ) (registry : Registry κ) : Outcome :=
  match e with
  | add _ => .whether !(e.gained registry).isEmpty
  | addAll _ => .many (e.gained registry).length
  | remove _ => .whether !(e.lost registry).isEmpty
  | removeAll _ => .many (e.lost registry).length
  | clear => .done

theorem not_isEmpty_of_length {xs : List α} {b : Bool} (h : xs.length = b.toNat) : (!xs.isEmpty) = b := by
  cases xs <;> cases b <;> simp_all

theorem length_gained (e : Enrolment κ) {registry : Registry κ}
    (h : ∀ k ∈ registry.members, k ∈ (e.registry registry).members) :
    (e.gained registry).length + registry.size = (e.registry registry).size :=
  Registry.size_filter_of_subset h

theorem length_lost (e : Enrolment κ) {registry : Registry κ}
    (h : ∀ k ∈ (e.registry registry).members, k ∈ registry.members) :
    (e.lost registry).length + (e.registry registry).size = registry.size :=
  Registry.size_filter_of_subset h

theorem outcome_add (k : κ) (registry : Registry κ) : (add k).outcome registry = .whether (!registry.contains k) := by
  have hkept : ∀ k' ∈ registry.members, k' ∈ (registry.insert k).members := fun _ hk => Registry.mem_insert_of_mem hk k
  have hgained := length_gained (add k) hkept
  have hsize := registry.size_insert k
  simp only [Enrolment.registry] at hgained
  exact congrArg Outcome.whether (not_isEmpty_of_length (by omega))

theorem outcome_addAll (ks : List κ) (registry : Registry κ) :
    (addAll ks).outcome registry = .many (Registry.effects .insert (fun r k => !r.contains k) registry ks) := by
  have hkept : ∀ k ∈ registry.members, k ∈ (ks.foldl Registry.insert registry).members :=
    fun _ hk => Registry.mem_foldl_insert_of_mem hk ks
  have hgained := length_gained (addAll ks) hkept
  have hsize := registry.size_foldl_insert ks
  simp only [Enrolment.registry] at hgained
  exact congrArg Outcome.many (by omega)

theorem outcome_remove (k : κ) (registry : Registry κ) : (remove k).outcome registry = .whether (registry.contains k) := by
  have hold : ∀ k' ∈ (registry.erase k).members, k' ∈ registry.members := fun _ hk => Registry.mem_of_mem_erase hk
  have hlost := length_lost (remove k) hold
  have hsize := registry.size_erase k
  simp only [Enrolment.registry] at hlost
  exact congrArg Outcome.whether (not_isEmpty_of_length (by omega))

theorem outcome_removeAll (ks : List κ) (registry : Registry κ) :
    (removeAll ks).outcome registry = .many (Registry.effects Registry.erase Registry.contains registry ks) := by
  have hold : ∀ k ∈ (ks.foldl Registry.erase registry).members, k ∈ registry.members :=
    fun _ hk => Registry.mem_of_mem_foldl_erase hk
  have hlost := length_lost (removeAll ks) hold
  have hsize := registry.size_foldl_erase ks
  simp only [Enrolment.registry] at hlost
  exact congrArg Outcome.many (by omega)

end Enrolment

/-- To change the answer of what ends with an answer is to end with another one. -/
theorem Act.map_of_andThen {x : Act σ (Reply α)} {y : Act σ (Reply Unit)} {s u : Stage σ} {a : α} (f : α → β)
    (h : x s = Act.andThen y (fun _ => pure (.ok a)) u) :
    (x >>= fun reply => pure (reply.map f)) s = Act.andThen y (fun _ => pure (.ok (f a))) u := by
  rw [Act.bind_apply, h]
  cases hy : y u with
  | ok reply t =>
    cases reply with
    | ok _ => rw [Act.andThen_ok hy, Act.andThen_ok hy]; rfl
    | error e => rw [Act.andThen_error hy, Act.andThen_error hy]; rfl
  | error i t => rw [Act.andThen, Act.bind_error hy, Act.andThen, Act.bind_error hy]

namespace Coordinator

variable {c : Coordinator σ κ} {hook : ProcessHook σ}

variable [DecidableEq κ]

/-- Carries a registration operation out, and answers as it does. -/
def perform (c : Coordinator σ κ) : Enrolment κ → Act σ (Reply Outcome)
  | .add k => do return (← c.add k).map .whether
  | .addAll ks => do return (← c.addAll ks).map .many
  | .remove k => do return (← c.remove k).map .whether
  | .removeAll ks => do return (← c.removeAll ks).map .many
  | .clear => do return (← c.clear).map fun _ => .done

/-- Where the books count the registrations, an operation books what it was asked for, and then brings the hook in line. -/
theorem perform_apply (hl : c.seat.Lawful) (e : Enrolment κ) {s : Stage σ}
    (hcount : (c.seat.get s.world).count = (c.seat.get s.world).registry.size) :
    ∃ journal, c.perform e s =
      Act.andThen c.sync (fun _ => pure (.ok (e.outcome (c.seat.get s.world).registry)))
        ⟨c.seat.set (e.booked (c.seat.get s.world)) s.world, journal⟩ := by
  cases e with
  | add k =>
    obtain ⟨j, hj⟩ := add_books hcount hl k
    exact ⟨j, Enrolment.outcome_add k _ ▸ Act.map_of_andThen Outcome.whether hj⟩
  | addAll ks =>
    obtain ⟨j, hj⟩ := addAll_books hcount hl ks
    exact ⟨j, Enrolment.outcome_addAll ks _ ▸ Act.map_of_andThen Outcome.many hj⟩
  | remove k =>
    obtain ⟨j, hj⟩ := remove_books hcount hl k
    exact ⟨j, Enrolment.outcome_remove k _ ▸ Act.map_of_andThen Outcome.whether hj⟩
  | removeAll ks =>
    obtain ⟨j, hj⟩ := removeAll_books hcount hl ks
    exact ⟨j, Enrolment.outcome_removeAll ks _ ▸ Act.map_of_andThen Outcome.many hj⟩
  | clear =>
    obtain ⟨j, hj⟩ := clear_apply hl s
    refine ⟨j, ?_⟩
    rw [perform, Act.bind_apply, hj, Act.andThen, Act.bind_apply]
    simp only [Enrolment.booked, Enrolment.registry, Registry.size_empty]
    cases c.sync _ with
    | ok reply t => cases reply <;> rfl
    | error i t => rfl

end Coordinator

/-! ## The call that is owed -/

/-- What a coordinator may ask of its hook. -/
inductive Upkeep where
  | install
  | uninstall
deriving DecidableEq

/-- Whether a call is to leave the hook installed. -/
def Upkeep.installs : Upkeep → Bool
  | install => true
  | uninstall => false

/-- A call of a hook, and the answer to it. -/
structure HookAnswer where
  call : Upkeep
  reply : Reply Unit

namespace ExitHook

/-- Makes a call of a hook. -/
def carry (hook : ExitHook σ) : Upkeep → Act σ (Reply Unit)
  | .install => hook.install
  | .uninstall => hook.uninstall

/-- Makes a call of a hook, and puts it on record. -/
def hear (hook : ExitHook σ) (call : Upkeep) : Act (List HookAnswer × σ) (Reply Unit) := do
  let reply ← Part.snd.focus (hook.carry call)
  Part.fst.modify (· ++ [⟨call, reply⟩])
  return reply

/-- A hook of which the calls and the answers to them are on record. -/
def heard (hook : ExitHook σ) : ExitHook (List HookAnswer × σ) where
  install := hook.hear .install
  uninstall := hook.hear .uninstall

/-- What a hook answers is its answer, and on record. -/
theorem heard_ok {hook : ExitHook σ} {call : Upkeep} {s t : Stage σ} {reply : Reply Unit} (h : hook.carry call s = .ok reply t)
    (answers : List HookAnswer) :
    hook.heard.carry call ⟨(answers, s.world), s.journal⟩ =
      .ok reply ⟨(answers ++ [⟨call, reply⟩], t.world), t.journal⟩ := by
  have hhear : hook.hear call ⟨(answers, s.world), s.journal⟩ = .ok reply ⟨(answers ++ [⟨call, reply⟩], t.world), t.journal⟩ :=
    Act.bind_ok (Part.focus_ok h)
  cases call <;> exact hhear

/-- To hear the calls of a hook is nothing to the world. -/
theorem heard_mirrors (hook : ExitHook σ) (call : Upkeep) : Act.Mirrors Prod.snd (hook.heard.carry call) (hook.carry call) := by
  have hhear : Act.Mirrors Prod.snd (hook.hear call) (hook.carry call) :=
    Act.mirrors_noted (hook.carry call) fun reply answers => answers ++ [HookAnswer.mk call reply]
  cases call <;> exact hhear

end ExitHook

namespace Registration

/-- The call that brings the hook in line, if one is needed. -/
def owed (r : Registration κ) : Option Upkeep :=
  match decide (0 < r.count), r.installed with
  | true, false => some .install
  | false, true => some .uninstall
  | _, _ => none

/-- What is kept behind an attempt to bring the hook in line that was answered so. -/
def balanced (r : Registration κ) (reply : Reply Unit) : Registration κ :=
  match reply with
  | .ok () => { r with installed := decide (0 < r.count) }
  | .error _ => r

variable {r : Registration κ}

/-- A call is owed where the flag is the opposite of what the call is for. -/
theorem owed_eq_some {call : Upkeep} :
    r.owed = some call ↔ decide (0 < r.count) = call.installs ∧ r.installed = !call.installs := by
  unfold owed
  cases decide (0 < r.count) <;> cases r.installed <;> cases call <;> simp [Upkeep.installs]

/-- Nothing is owed where the flag says whether something is registered. -/
theorem owed_eq_none : r.owed = none ↔ r.installed = decide (0 < r.count) := by
  unfold owed
  cases decide (0 < r.count) <;> cases r.installed <;> simp

end Registration

namespace Coordinator

variable {c : Coordinator σ κ} {hook : ProcessHook σ}

/-- A call that is owed and accepted brings the hook in line. -/
theorem sync_accepted {call : Upkeep} {s t : Stage σ} (howed : (c.seat.get s.world).owed = some call)
    (h : c.hook.carry call s = .ok (.ok ()) t) :
    ∃ event, c.sync s =
      .ok (.ok ()) ⟨c.seat.set { c.seat.get t.world with installed := call.installs } t.world, t.journal ++ [event]⟩ := by
  obtain ⟨hcount, hflag⟩ := Registration.owed_eq_some.1 howed
  cases call with
  | install => exact ⟨_, sync_install (of_decide_eq_true hcount) hflag h⟩
  | uninstall => exact ⟨_, sync_uninstall (Nat.eq_zero_of_not_pos (of_decide_eq_false hcount)) hflag h⟩

/-- A call that is owed and refused is the answer. -/
theorem sync_refused {call : Upkeep} {s t : Stage σ} {e : SupervisorError} (howed : (c.seat.get s.world).owed = some call)
    (h : c.hook.carry call s = .ok (.error e) t) : c.sync s = .ok (.error e) t := by
  obtain ⟨hcount, hflag⟩ := Registration.owed_eq_some.1 howed
  cases call with
  | install => exact sync_install_refused (of_decide_eq_true hcount) hflag h
  | uninstall => exact sync_uninstall_refused (Nat.eq_zero_of_not_pos (of_decide_eq_false hcount)) hflag h

/-- The hook of a guarded coordinator answers, and leaves what the coordinator keeps. -/
theorem Guarded.carry (hg : c.Guarded hook) (call : Upkeep) (s : Stage σ) :
    ∃ reply t, c.hook.carry call s = .ok reply t ∧ c.seat.get t.world = c.seat.get s.world := by
  rw [hg.hook_eq]
  cases call with
  | install =>
    obtain ⟨reply, t, ht, -, hseat⟩ := hg.honest.install s
    exact ⟨reply, t, ht, hseat⟩
  | uninstall =>
    obtain ⟨reply, t, ht, -, hseat⟩ := hg.honest.uninstall s
    exact ⟨reply, t, ht, hseat⟩

/-- A coordinator that has the calls of its hook on record. -/
def heard (c : Coordinator σ κ) : Coordinator (List HookAnswer × σ) κ where
  seat := Part.snd.comp c.seat
  hook := c.hook.heard
  component k := ⟨(c.component k).name, fun r => Part.snd.focus ((c.component k).request r)⟩

/-- To bring the hook in line takes the call that is owed, and the answer to it is the answer. -/
theorem heard_sync (hg : c.Guarded hook) (s : Stage σ) :
    ∃ reply w journal,
      c.heard.sync ⟨([], s.world), s.journal⟩ =
        .ok reply ⟨((c.seat.get s.world).owed.toList.map (HookAnswer.mk · reply), w), journal⟩ ∧
      c.seat.get w = (c.seat.get s.world).balanced reply ∧ ((c.seat.get s.world).owed = none → reply = .ok ()) := by
  cases howed : (c.seat.get s.world).owed with
  | none =>
    have hflag := Registration.owed_eq_none.1 howed
    have hidle : c.heard.sync ⟨([], s.world), s.journal⟩ = _ := sync_idle (c := c.heard) hflag
    refine ⟨_, _, _, hidle, ?_, fun _ => rfl⟩
    rw [Registration.balanced, ← hflag]
  | some call =>
    obtain ⟨reply, t, ht, hseat⟩ := hg.carry call s
    have hheard := ExitHook.heard_ok ht []
    cases reply with
    | ok _ =>
      obtain ⟨event, hsync⟩ := sync_accepted (c := c.heard) (s := ⟨([], s.world), s.journal⟩) howed hheard
      have hget := hg.seat.get_set { c.seat.get t.world with installed := call.installs } t.world
      refine ⟨.ok (), c.seat.set { c.seat.get t.world with installed := call.installs } t.world, _, hsync, ?_, nofun⟩
      rw [hget, hseat, ← (Registration.owed_eq_some.1 howed).1]
      rfl
    | error e =>
      have hsync := sync_refused (c := c.heard) (s := ⟨([], s.world), s.journal⟩) howed hheard
      exact ⟨.error e, t.world, t.journal, hsync, hseat, nofun⟩

/-! ## The record changes nothing -/

theorem heard_manager (c : Coordinator σ κ) : Manager.Mirrors Prod.snd c.heard.manager c.manager :=
  ⟨(Part.shows_beside c.seat).comp _, fun _ => ⟨rfl, fun _ => Act.mirrors_focus _⟩⟩

theorem heard_recount (c : Coordinator σ κ) (f : Nat → Nat) : Act.Mirrors Prod.snd (c.heard.recount f) (c.recount f) :=
  (Part.shows_beside c.seat).modify _

theorem heard_mark (c : Coordinator σ κ) (installed : Bool) : Act.Mirrors Prod.snd (c.heard.mark installed) (c.mark installed) :=
  (Part.shows_beside c.seat).modify _

theorem heard_sync_mirrors (c : Coordinator σ κ) : Act.Mirrors Prod.snd c.heard.sync c.sync := by
  unfold sync
  refine (Part.shows_beside c.seat).read.bind fun r => ?_
  split
  · exact (c.hook.heard_mirrors .install).andThen fun _ => (c.heard_mark true).bind fun _ => (Act.Mirrors.log _).bind
      fun _ => .pure _
  · split
    · exact (c.hook.heard_mirrors .uninstall).andThen fun _ => (c.heard_mark false).bind fun _ => (Act.Mirrors.log _).bind
        fun _ => .pure _
    · exact (Act.Mirrors.log _).bind fun _ => .pure _

theorem tally_mirrors {ρ : Type} {y : κ → Act (ρ × σ) Bool} {x : κ → Act σ Bool} (h : ∀ k, Act.Mirrors Prod.snd (y k) (x k))
    (ks : List κ) : Act.Mirrors Prod.snd (tally y ks) (tally x ks) := by
  induction ks with
  | nil => exact .pure _
  | cons k ks ih => exact (h k).bind fun _ => ih.bind fun _ => .pure _

variable [DecidableEq κ]

/-- A registration operation does what it does without the record. -/
theorem heard_perform (c : Coordinator σ κ) (e : Enrolment κ) : Act.Mirrors Prod.snd (c.heard.perform e) (c.perform e) := by
  have hsync : ∀ {γ : Type} (a : γ), Act.Mirrors (Prod.snd : List HookAnswer × σ → σ)
      (Act.andThen c.heard.sync fun _ => pure (.ok a)) (Act.andThen c.sync fun _ => pure (.ok a)) :=
    fun a => c.heard_sync_mirrors.andThen fun _ => .pure _
  cases e with
  | add k =>
    refine Act.Mirrors.bind ((c.heard_manager.add k).bind fun added => ?_) fun _ => .pure _
    cases added with
    | false => exact hsync false
    | true => exact (c.heard_recount _).bind fun _ => hsync true
  | addAll ks =>
    refine Act.Mirrors.bind ((tally_mirrors c.heard_manager.add ks).bind fun n => ?_) fun _ => .pure _
    exact (c.heard_recount _).bind fun _ => hsync n
  | remove k =>
    refine Act.Mirrors.bind ((c.heard_manager.remove k).bind fun removed => ?_) fun _ => .pure _
    cases removed with
    | false => exact hsync false
    | true => exact (c.heard_recount _).bind fun _ => hsync true
  | removeAll ks =>
    refine Act.Mirrors.bind ((tally_mirrors c.heard_manager.remove ks).bind fun n => ?_) fun _ => .pure _
    exact (c.heard_recount _).bind fun _ => hsync n
  | clear =>
    refine Act.Mirrors.bind (c.heard_manager.clear.bind fun _ => ?_) fun _ => .pure _
    exact (c.heard_recount _).bind fun _ => c.heard_sync_mirrors

/-! ## One operation -/

/-- What is on record of a registration operation: its answer, and the calls of the hook. -/
structure Performance where
  reply : Reply Outcome
  answers : List HookAnswer

/-- Carries a registration operation out with the calls of the hook on record. -/
def performing (c : Coordinator σ κ) (e : Enrolment κ) : Act σ Performance := do
  let (reply, answers) ← Act.recording [] (c.heard.perform e)
  return ⟨reply, answers⟩

/-- What is on record of an operation that made the call it owed and was answered so, or owed none. -/
def performance (e : Enrolment κ) (r : Registration κ) (reply : Reply Unit) : Performance where
  reply := reply.map fun _ => e.outcome r.registry
  answers := (e.booked r).owed.toList.map (HookAnswer.mk · reply)

/-- An operation books what it was asked for and makes the call that it then owes. The answer to that decides on the flag, and on
its own answer. -/
theorem performing_apply (hg : c.Guarded hook) (e : Enrolment κ) {s : Stage σ}
    (hcount : (c.seat.get s.world).count = (c.seat.get s.world).registry.size) :
    ∃ reply t, c.performing e s = .ok (performance e (c.seat.get s.world) reply) t ∧
      c.perform e s = .ok (performance e (c.seat.get s.world) reply).reply t ∧
      c.seat.get t.world = (e.booked (c.seat.get s.world)).balanced reply ∧
      ((e.booked (c.seat.get s.world)).owed = none → reply = .ok ()) := by
  have hl : c.heard.seat.Lawful := Part.lawful_snd.comp hg.seat
  obtain ⟨journal, hperform⟩ := perform_apply (c := c.heard) (s := ⟨([], s.world), s.journal⟩) hl e hcount
  obtain ⟨reply, w, journal', hsync, hw, hreply⟩ :=
    heard_sync hg ⟨c.seat.set (e.booked (c.seat.get s.world)) s.world, journal⟩
  simp only [hg.seat.get_set] at hsync hw hreply
  have hrun : c.heard.perform e ⟨([], s.world), s.journal⟩ =
      .ok (performance e (c.seat.get s.world) reply).reply
        ⟨((performance e (c.seat.get s.world) reply).answers, w), journal'⟩ := by
    refine hperform.trans ?_
    cases reply with
    | ok _ => exact Act.andThen_ok hsync
    | error err => exact Act.andThen_error hsync
  have hrecording := Act.recording_ok hrun
  refine ⟨reply, ⟨w, journal'⟩, ?_, (c.heard_perform e).of_recording hrecording, hw, hreply⟩
  rw [performing, Act.bind_ok hrecording]
  rfl

/-- What a registration operation makes of what a coordinator keeps, and what is on record of it. -/
structure Performed (e : Enrolment κ) (r : Registration κ) (p : Performance) (r' : Registration κ) : Prop where
  /-- The registrations and their count change as they were asked to, whatever the hook answers. -/
  registry : r'.registry = e.registry r.registry
  count : r'.count = (e.registry r.registry).size
  /-- The hook is called at most once: it is installed exactly where something is registered now and it was not installed, and
  removed exactly where nothing is registered now and it was. -/
  once : p.answers.length ≤ 1
  install : (∃ reply, ⟨.install, reply⟩ ∈ p.answers) ↔ 0 < r'.count ∧ r.installed = false
  uninstall : (∃ reply, ⟨.uninstall, reply⟩ ∈ p.answers) ↔ r'.count = 0 ∧ r.installed = true
  /-- If the operation goes well, the flag says whether something is registered, and the answer what has changed. -/
  ok : ∀ outcome, p.reply = .ok outcome → r'.installed = decide (0 < r'.count) ∧ outcome = e.outcome r.registry
  /-- It goes ill exactly if that one call was refused, with the error of the hook, and leaves the flag. -/
  error : ∀ err, p.reply = .error err ↔ ∃ call, p.answers = [⟨call, .error err⟩]
  flag : ∀ err, p.reply = .error err → r'.installed = r.installed

omit [DecidableEq κ] in
theorem mem_answers {o : Option Upkeep} {reply : Reply Unit} {call : Upkeep} :
    (∃ reply', (⟨call, reply'⟩ : HookAnswer) ∈ o.toList.map (HookAnswer.mk · reply)) ↔ o = some call := by
  cases o with
  | none => simp
  | some call' =>
    simp only [Option.toList_some, List.map_cons, List.map_nil, List.mem_singleton, HookAnswer.mk.injEq, Option.some.injEq]
    exact ⟨fun ⟨_, h, _⟩ => h.symm, fun h => ⟨reply, h.symm, rfl⟩⟩

theorem performance_error {e : Enrolment κ} {r : Registration κ} {reply : Reply Unit} {err : SupervisorError} :
    (performance e r reply).reply = .error err ↔ reply = .error err := by
  cases reply <;> simp [performance, Except.map]

theorem performance_of_owed {e : Enrolment κ} {r : Registration κ} {call : Upkeep} (h : (e.booked r).owed = some call)
    (reply : Reply Unit) : performance e r reply = ⟨reply.map fun _ => e.outcome r.registry, [⟨call, reply⟩]⟩ := by
  rw [performance, h]
  rfl

theorem performance_of_none {e : Enrolment κ} {r : Registration κ} (h : (e.booked r).owed = none) (reply : Reply Unit) :
    performance e r reply = ⟨reply.map fun _ => e.outcome r.registry, []⟩ := by
  rw [performance, h]
  rfl

/-- What an operation makes of what is kept follows from what it owes and from the answer to that. -/
theorem performed {e : Enrolment κ} {r : Registration κ} {reply : Reply Unit}
    (hreply : (e.booked r).owed = none → reply = .ok ()) :
    Performed e r (performance e r reply) ((e.booked r).balanced reply) := by
  have hregistry : ((e.booked r).balanced reply).registry = e.registry r.registry := by cases reply <;> rfl
  have hcount : ((e.booked r).balanced reply).count = (e.booked r).count := by cases reply <;> rfl
  refine ⟨hregistry, hcount, ?_, ?_, ?_, fun outcome hok => ?_, fun err => ?_, fun err herr => ?_⟩
  · rw [performance, List.length_map]
    exact Option.length_toList_le
  · rw [performance, mem_answers, Registration.owed_eq_some, hcount, Upkeep.installs, decide_eq_true_iff]
    rfl
  · rw [performance, mem_answers, Registration.owed_eq_some, hcount, Upkeep.installs, decide_eq_false_iff_not, Nat.not_lt,
      Nat.le_zero]
    rfl
  · cases reply with
    | ok _ =>
      cases hok
      exact ⟨rfl, rfl⟩
    | error err => cases hok
  · rw [performance_error]
    constructor
    · rintro rfl
      cases howed : (e.booked r).owed with
      | none => cases hreply howed
      | some call => exact ⟨call, by rw [performance_of_owed howed]⟩
    · rintro ⟨call, hanswers⟩
      cases howed : (e.booked r).owed with
      | none => rw [performance_of_none howed] at hanswers; cases hanswers
      | some call' => rw [performance_of_owed howed] at hanswers; cases hanswers; rfl
  · rw [performance_error] at herr
    rw [herr]
    rfl

/-! ## Operations behind a refusal -/

/-- A call is due where it would bring the hook in line with such registrations. -/
def Due (call : Upkeep) (registry : Registry κ) : Prop :=
  decide (0 < registry.size) = call.installs

/-- Operations behind a refused call, and what comes of them: each after which the call is due makes it again, and every other one
goes well without a call, until it is accepted. -/
inductive Retries (call : Upkeep) : Registry κ → List (Enrolment κ) → List Performance → Prop where
  | nil {registry : Registry κ} : Retries call registry [] []
  | idle {registry : Registry κ} {e : Enrolment κ} {es : List (Enrolment κ)} {ps : List Performance} :
      ¬ Due call (e.registry registry) → Retries call (e.registry registry) es ps →
      Retries call registry (e :: es) (⟨.ok (e.outcome registry), []⟩ :: ps)
  | refused {registry : Registry κ} {e : Enrolment κ} {es : List (Enrolment κ)} {err : SupervisorError} {ps : List Performance} :
      Due call (e.registry registry) → Retries call (e.registry registry) es ps →
      Retries call registry (e :: es) (⟨.error err, [⟨call, .error err⟩]⟩ :: ps)
  | accepted {registry : Registry κ} {e : Enrolment κ} {es : List (Enrolment κ)} {ps : List Performance} :
      Due call (e.registry registry) →
      Retries call registry (e :: es) (⟨.ok (e.outcome registry), [⟨call, .ok ()⟩]⟩ :: ps)

/-- Behind an operation the books count the registrations. -/
theorem booked_balanced (e : Enrolment κ) (r : Registration κ) (reply : Reply Unit) :
    ((e.booked r).balanced reply).registry = e.registry r.registry ∧
      ((e.booked r).balanced reply).count = ((e.booked r).balanced reply).registry.size := by
  cases reply <;> exact ⟨rfl, rfl⟩

/-- Operations, one after the other, come to this on record, and to the same answers without it. -/
def Performs (c : Coordinator σ κ) (es : List (Enrolment κ)) (s : Stage σ) (ps : List Performance) (t : Stage σ) : Prop :=
  es.mapM c.performing s = .ok ps t ∧ es.mapM c.perform s = .ok (ps.map Performance.reply) t

theorem Performs.cons {e : Enrolment κ} {es : List (Enrolment κ)} {p : Performance} {ps : List Performance} {s t u : Stage σ}
    (hperforming : c.performing e s = .ok p t) (hperform : c.perform e s = .ok p.reply t) (h : c.Performs es t ps u) :
    c.Performs (e :: es) s (p :: ps) u := by
  constructor
  · rw [List.mapM_cons, Act.bind_ok hperforming, Act.bind_ok h.1]
    rfl
  · rw [List.mapM_cons, Act.bind_ok hperform, Act.bind_ok h.2]
    rfl

/-- Operations, one after the other, return. -/
theorem exists_performs (hg : c.Guarded hook) (es : List (Enrolment κ)) {s : Stage σ}
    (hcount : (c.seat.get s.world).count = (c.seat.get s.world).registry.size) : ∃ ps t, c.Performs es s ps t := by
  induction es generalizing s with
  | nil => exact ⟨[], s, rfl, rfl⟩
  | cons e es ih =>
    obtain ⟨reply, t, hperforming, hperform, ht, -⟩ := performing_apply hg e hcount
    obtain ⟨-, hbooks⟩ := booked_balanced e (c.seat.get s.world) reply
    rw [← ht] at hbooks
    obtain ⟨ps, u, hus⟩ := ih hbooks
    exact ⟨_ :: ps, u, .cons hperforming hperform hus⟩

/-- As long as the flag is not as a call would have it, operations retry the call. -/
theorem performs_retry (hg : c.Guarded hook) {call : Upkeep} (es : List (Enrolment κ)) {s : Stage σ}
    (hcount : (c.seat.get s.world).count = (c.seat.get s.world).registry.size)
    (hflag : (c.seat.get s.world).installed = !call.installs) :
    ∃ ps t, c.Performs es s ps t ∧ Retries call (c.seat.get s.world).registry es ps := by
  induction es generalizing s with
  | nil => exact ⟨[], s, ⟨rfl, rfl⟩, .nil⟩
  | cons e es ih =>
    obtain ⟨reply, t, hperforming, hperform, ht, hreply⟩ := performing_apply hg e hcount
    obtain ⟨hregistry, hbooks⟩ := booked_balanced e (c.seat.get s.world) reply
    rw [← ht] at hregistry hbooks
    by_cases hdue : Due call (e.registry (c.seat.get s.world).registry)
    · have howed : (e.booked (c.seat.get s.world)).owed = some call := Registration.owed_eq_some.2 ⟨hdue, hflag⟩
      rw [performance_of_owed howed] at hperforming hperform
      cases reply with
      | ok _ =>
        obtain ⟨ps, u, hus⟩ := exists_performs hg es hbooks
        exact ⟨_ :: ps, u, .cons hperforming hperform hus, .accepted hdue⟩
      | error err =>
        have hflag' : (c.seat.get t.world).installed = !call.installs := by
          rw [ht]
          exact hflag
        obtain ⟨ps, u, hus, hps⟩ := ih hbooks hflag'
        rw [hregistry] at hps
        exact ⟨_ :: ps, u, .cons hperforming hperform hus, .refused hdue hps⟩
    · have hidle : (e.booked (c.seat.get s.world)).installed = decide (0 < (e.booked (c.seat.get s.world)).count) :=
        hflag.trans (Bool.eq_not.2 hdue).symm
      have howed : (e.booked (c.seat.get s.world)).owed = none := Registration.owed_eq_none.2 hidle
      obtain rfl := hreply howed
      have hflag' : (c.seat.get t.world).installed = !call.installs := by
        rw [ht]
        exact hidle.symm.trans hflag
      obtain ⟨ps, u, hus, hps⟩ := ih hbooks hflag'
      rw [hregistry] at hps
      rw [performance_of_none howed] at hperforming hperform
      exact ⟨_ :: ps, u, .cons hperforming hperform hus, .idle hdue hps⟩

/-- Registrations stand, whatever the hook answers: in the midst of any run an operation changes them and their count as it was
asked to, and the one call that it may make of the hook decides on nothing but the flag and its own answer. If that was refused,
the operations that follow make the same call again until it is accepted, each behind which it is due, be it one that changes
nothing. -/
theorem registrations_stand_and_refusals_are_retried (hg : c.Guarded hook)
    (hstop : ∀ k, ((c.component k).request .stop).Leads (c.Move hook)) {s : Stage σ} (hs : c.Amid hook s.world)
    (e : Enrolment κ) :
    ∃ p t, c.performing e s = .ok p t ∧ c.perform e s = .ok p.reply t ∧
      Performed e (c.seat.get s.world) p (c.seat.get t.world) ∧
      ∀ err, p.reply = .error err → ∃ call, p.answers = [⟨call, .error err⟩] ∧ Due call (c.seat.get t.world).registry ∧
        ∀ (es : List (Enrolment κ)) (u : Stage σ), c.seat.get u.world = c.seat.get t.world →
          ∃ ps v, c.Performs es u ps v ∧ Retries call (c.seat.get u.world).registry es ps := by
  have hcount := (hs.agrees hg hstop).count
  obtain ⟨reply, t, hperforming, hperform, ht, hreply⟩ := performing_apply hg e hcount
  refine ⟨_, t, hperforming, hperform, ht ▸ performed hreply, fun err herr => ?_⟩
  obtain rfl := performance_error.1 herr
  obtain ⟨hregistry, hbooks⟩ := booked_balanced e (c.seat.get s.world) (.error err)
  cases howed : (e.booked (c.seat.get s.world)).owed with
  | none => cases hreply howed
  | some call =>
    obtain ⟨hdue, hflag⟩ := Registration.owed_eq_some.1 howed
    refine ⟨call, by rw [performance_of_owed howed], ?_, fun es u hu => ?_⟩
    · rw [ht, hregistry]
      exact hdue
    · rw [← ht, ← hu] at hbooks
      exact performs_retry hg es hbooks (by rw [hu, ht]; exact hflag)

namespace Rehearsal

/-- The hook will refuse two installations. -/
def refusing : Stage World :=
  ⟨([], { installRefusals := ["busy", "still busy"] }, {}), []⟩

/-- The text with which an operation was refused. -/
def refusal : EStateM.Result Interruption (Stage World) Performance → Option String
  | .ok ⟨.error (.exitHook m), _⟩ _ => some m
  | _ => none

theorem of_refusal {p : Performance} {t : Stage World} {m : String} (h : refusal (.ok p t) = some m) :
    p.reply = .error (.exitHook m) := by
  unfold refusal at h
  split at h
  · rename_i heq
    cases heq
    cases h
    rfl
  · cases h

/-- The first operation is refused. Behind it come one that changes nothing, one that leaves nothing to install the hook for, and
one that registers a component. -/
theorem registrations_stand_and_refusals_are_retried_rehearsal :
    ∃ p t, coordinator.performing (.addAll [1, 0, 1]) refusing = .ok p t ∧
      coordinator.perform (.addAll [1, 0, 1]) refusing = .ok (.error (.exitHook "busy")) t ∧
      Performed (.addAll [1, 0, 1]) (coordinator.seat.get refusing.world) p (coordinator.seat.get t.world) ∧
      p.answers = [⟨.install, .error (.exitHook "busy")⟩] ∧
      ∃ ps v, coordinator.Performs [.add 0, .clear, .add 2] t ps v ∧
        Retries .install (coordinator.seat.get t.world).registry [.add 0, .clear, .add 2] ps := by
  have hamid : coordinator.Amid HookLedger.processHook refusing.world := .between (.fresh rfl rfl)
  obtain ⟨p, t, hperforming, hperform, hperformed, hretry⟩ :=
    registrations_stand_and_refusals_are_retried guarded stop_leads hamid (.addAll [1, 0, 1])
  have hrefusal : refusal (coordinator.performing (.addAll [1, 0, 1]) refusing) = some "busy" := by decide +kernel
  rw [hperforming] at hrefusal
  have hreply := of_refusal hrefusal
  rw [hreply] at hperform
  obtain ⟨call, hanswers, -, hlater⟩ := hretry _ hreply
  have hinstall : ∃ reply, ⟨.install, reply⟩ ∈ p.answers := by
    refine hperformed.install.2 ⟨?_, rfl⟩
    rw [hperformed.count]
    decide
  rw [hanswers] at hinstall
  obtain ⟨_, hmem⟩ := hinstall
  cases List.mem_singleton.1 hmem
  obtain ⟨ps, v, hperforms, hretries⟩ := hlater _ t rfl
  exact ⟨p, t, hperforming, hperform, hperformed, hanswers, ps, v, hperforms, hretries⟩

end Rehearsal

end Coordinator

end Supervision

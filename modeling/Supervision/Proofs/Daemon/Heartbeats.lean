import Supervision.Daemon
import Supervision.Proofs.Heartbeat
import Supervision.Proofs.Manager

/-!
# The heartbeats of the daemon

What one batch makes of the heartbeats of a daemon. `World.launched` is the world once heartbeats have been started and
`World.halted` the one once they have been stopped; `startAll_launched` and `stopAll_apply` say that a batch that goes well leaves
just that, heartbeat by heartbeat.
-/

namespace Supervision

namespace Daemon

/-- The heartbeat of a number. -/
def heartbeat (config : SupervisorConfig) (i : Nat) : Heartbeat :=
  ⟨(config.heartbeat.getD i default).name, (config.heartbeat.getD i default).intervalMs⟩

namespace Pacemaker

/-- A heartbeat that was never started, or is stopped and has no worker. -/
structure Resting (p : Pacemaker) : Prop where
  machine : p.machine = ⟨.stopped, none⟩
  running : p.pulse.running = false

/-- A heartbeat that is started and has a worker. -/
structure Beating (p : Pacemaker) : Prop where
  machine : p.machine = ⟨.started, none⟩
  running : p.pulse.running = true

/-- A heartbeat once it has been started. -/
def launched (p : Pacemaker) : Pacemaker :=
  ⟨⟨.started, none⟩, { p.pulse with running := true }⟩

/-- A heartbeat once it has been stopped. -/
def halted (p : Pacemaker) : Pacemaker :=
  ⟨⟨.stopped, none⟩, { p.pulse with running := false }⟩

theorem beating_launched (p : Pacemaker) : p.launched.Beating := ⟨rfl, rfl⟩

theorem resting_halted (p : Pacemaker) : p.halted.Resting := ⟨rfl, rfl⟩

end Pacemaker

namespace World

/-- The world once these heartbeats have been started, one after the other. -/
def launched (config : SupervisorConfig) (ks : List Nat) (w : World) : World :=
  { w with
    pacemaker := fun k => if k ∈ ks then (w.pacemaker k).launched else w.pacemaker k
    threads := { w.threads with
      spawnOutcomes := w.threads.spawnOutcomes.drop ks.length
      deeds := w.threads.deeds ++ ks.map fun k => .spawned (heartbeat config k).threadName } }

/-- The world once these heartbeats have been stopped, one after the other. -/
def halted (config : SupervisorConfig) (ks : List Nat) (w : World) : World :=
  { w with
    pacemaker := fun k => if k ∈ ks then (w.pacemaker k).halted else w.pacemaker k
    threads := { w.threads with
      joinOutcomes := w.threads.joinOutcomes.drop ks.length
      deeds := w.threads.deeds ++ ks.flatMap fun k => ThreadDeed.ended (heartbeat config k).threadName } }

theorem launched_nil (config : SupervisorConfig) (w : World) : w.launched config [] = w := by
  simp [launched]

theorem halted_nil (config : SupervisorConfig) (w : World) : w.halted config [] = w := by
  simp [halted]

/-- Heartbeats are started one after the other. -/
theorem launched_launched (config : SupervisorConfig) (k : Nat) (ks : List Nat) (w : World) :
    (w.launched config [k]).launched config ks = w.launched config (k :: ks) := by
  simp only [launched, mk.injEq, and_true, true_and, ThreadHost.mk.injEq]
  refine ⟨funext fun l => ?_, ?_, by simp⟩
  · by_cases hk : l = k <;> by_cases hks : l ∈ ks <;> simp [hk, hks, Pacemaker.launched]
  · rw [List.drop_drop, List.length_singleton, List.length_cons, Nat.add_comm]

/-- Heartbeats are stopped one after the other. -/
theorem halted_halted (config : SupervisorConfig) (k : Nat) (ks : List Nat) (w : World) :
    (w.halted config [k]).halted config ks = w.halted config (k :: ks) := by
  simp only [halted, mk.injEq, and_true, true_and, ThreadHost.mk.injEq]
  refine ⟨funext fun l => ?_, ?_, by simp⟩
  · by_cases hk : l = k <;> by_cases hks : l ∈ ks <;> simp [hk, hks, Pacemaker.halted]
  · rw [List.drop_drop, List.length_singleton, List.length_cons, Nat.add_comm]

/-- A started machine in the seat of a heartbeat whose worker was spawned. -/
theorem seat_launched (config : SupervisorConfig) (k : Nat) (w : World) :
    (machinePart k).set ⟨.started, none⟩ { w with
      pacemaker := fun l =>
        if l = k then { w.pacemaker k with pulse := { (w.pacemaker k).pulse with running := true } } else w.pacemaker l
      threads := { w.threads with
        spawnOutcomes := w.threads.spawnOutcomes.tail
        deeds := w.threads.deeds ++ [.spawned (heartbeat config k).threadName] } } = w.launched config [k] := by
  simp only [launched, machinePart, pacemakerPart, Part.comp, mk.injEq, and_true, true_and, ThreadHost.mk.injEq]
  refine ⟨funext fun l => ?_, by simp, rfl⟩
  by_cases hl : l = k <;> simp [hl, Pacemaker.launched]

/-- A stopped machine in the seat of a heartbeat whose worker was ended. -/
theorem seat_halted (config : SupervisorConfig) (k : Nat) (w : World) :
    (machinePart k).set ⟨.stopped, none⟩ { w with
      pacemaker := fun l =>
        if l = k then { w.pacemaker k with pulse := { (w.pacemaker k).pulse with running := false } } else w.pacemaker l
      threads := { w.threads with
        joinOutcomes := w.threads.joinOutcomes.tail
        deeds := w.threads.deeds ++ ThreadDeed.ended (heartbeat config k).threadName } } = w.halted config [k] := by
  simp only [halted, machinePart, pacemakerPart, Part.comp, mk.injEq, and_true, true_and, ThreadHost.mk.injEq]
  refine ⟨funext fun l => ?_, by simp, rfl⟩
  by_cases hl : l = k <;> simp [hl, Pacemaker.halted]

theorem lawful_threadsPart : threadsPart.Lawful :=
  ⟨fun _ _ => rfl, fun _ => rfl, fun _ _ _ => rfl⟩

theorem lawful_componentsPart : componentsPart.Lawful :=
  ⟨fun _ _ => rfl, fun _ => rfl, fun _ _ _ => rfl⟩

theorem lawful_armingPart : armingPart.Lawful :=
  ⟨fun _ _ => rfl, fun _ => rfl, fun _ _ _ => rfl⟩

theorem lawful_registrationPart : registrationPart.Lawful :=
  ⟨fun _ _ => rfl, fun _ => rfl, fun _ _ _ => rfl⟩

end World

variable {config : SupervisorConfig} {k : Nat} {s t : Stage World}

/-- The course of a request to a heartbeat is what the request comes to. -/
theorem request_course {r : Request} {deeds : List HookDeed} {reply : Reply Unit} {m : Machine}
    (h : Machine.Course (hooks config k) r (s.world.pacemaker k).machine s deeds reply m t)
    (hsound : (s.world.pacemaker k).machine.Sound) :
    ((manager config).component k).request r s = .ok reply ⟨(World.machinePart k).set m t.world, t.journal⟩ :=
  h.component_eq rfl hsound

/-- The hook that starts a resting heartbeat has spawned the worker, if there is nothing against it. -/
theorem start_spawned (config : SupervisorConfig) (hidle : (s.world.pacemaker k).pulse.running = false)
    (hname : ThreadHost.nulPosition? (heartbeat config k).threadName = none)
    (houtcome : s.world.threads.spawnOutcomes.head?.join = none) :
    (hooks config k).invoke .start s = .ok (.ok ()) ⟨{ s.world with
      pacemaker := fun l =>
        if l = k then { s.world.pacemaker k with pulse := { (s.world.pacemaker k).pulse with running := true } }
        else s.world.pacemaker l
      threads := { s.world.threads with
        spawnOutcomes := s.world.threads.spawnOutcomes.tail
        deeds := s.world.threads.deeds ++ [.spawned (heartbeat config k).threadName] } }, s.journal⟩ := by
  have hpulse : ((World.pulsePart k).get s.world).running = false := hidle
  have hspawn := ThreadHost.spawn_spawned World.lawful_threadsPart hname houtcome
  have hstart : (heartbeat config k).start (World.pulsePart k) (ThreadHost.threads World.threadsPart) s = _ :=
    Heartbeat.start_spawned hpulse hspawn
  exact hstart

/-- The hook that starts a resting heartbeat panics if there is a NUL in the name of the worker. -/
theorem start_panics (config : SupervisorConfig) (hidle : (s.world.pacemaker k).pulse.running = false) {position : Nat}
    (hname : ThreadHost.nulPosition? (heartbeat config k).threadName = some position) :
    ∃ message, (hooks config k).invoke .start s = .error (.panic message) s := by
  have hpulse : ((World.pulsePart k).get s.world).running = false := hidle
  obtain ⟨message, hspawn⟩ := ThreadHost.spawn_panics World.threadsPart hname s
  exact ⟨message, Heartbeat.start_interrupted hpulse hspawn⟩

/-- The hook that starts a resting heartbeat is interrupted, fails, or has spawned the worker. -/
theorem start_outcome (config : SupervisorConfig) (hidle : (s.world.pacemaker k).pulse.running = false) :
    (∃ i t, (hooks config k).invoke .start s = .error i t) ∨
      (∃ cause t, (hooks config k).invoke .start s = .ok (.error cause) t) ∨
      (hooks config k).invoke .start s = .ok (.ok ()) ⟨{ s.world with
        pacemaker := fun l =>
          if l = k then { s.world.pacemaker k with pulse := { (s.world.pacemaker k).pulse with running := true } }
          else s.world.pacemaker l
        threads := { s.world.threads with
          spawnOutcomes := s.world.threads.spawnOutcomes.tail
          deeds := s.world.threads.deeds ++ [.spawned (heartbeat config k).threadName] } }, s.journal⟩ := by
  cases hname : ThreadHost.nulPosition? (heartbeat config k).threadName with
  | some position =>
    obtain ⟨message, hstart⟩ := start_panics config hidle hname
    exact .inl ⟨.panic message, s, hstart⟩
  | none =>
    cases houtcome : s.world.threads.spawnOutcomes.head?.join with
    | some message =>
      have hpulse : ((World.pulsePart k).get s.world).running = false := hidle
      have hspawn : ThreadHost.spawn World.threadsPart _ s = _ := ThreadHost.spawn_refused hname houtcome
      exact .inr (.inl ⟨_, _, Heartbeat.start_refused hpulse hspawn⟩)
    | none => exact .inr (.inr (start_spawned config hidle hname houtcome))

/-- A start that goes well leaves a resting heartbeat launched: its worker was spawned. -/
theorem start_launched (hk : (s.world.pacemaker k).Resting)
    (h : ((manager config).component k).request .start s = .ok (.ok ()) t) : t.world = s.world.launched config [k] := by
  have hsound : (s.world.pacemaker k).machine.Sound := hk.machine ▸ Machine.sound_default
  have hne : (s.world.pacemaker k).machine.state ≠ .failed := by rw [hk.machine]; decide
  have hedge : transition (s.world.pacemaker k).machine.state Request.start.trigger (hooks config k).resettable =
      some Request.start.passage := by rw [hk.machine]; rfl
  obtain ⟨i, u, hstart⟩ | ⟨cause, u, hstart⟩ | hstart := start_outcome config (s := s.tell _) hk.running
  · obtain ⟨v, hv⟩ := Machine.component_interrupted (World.machinePart k) rfl hne hedge hstart
    cases hv.symm.trans h
  · have hcourse := Machine.Course.direct hne hedge (.failed hstart rfl)
    cases (request_course hcourse hsound).symm.trans h
  · have hcourse := Machine.Course.direct hne hedge (.done hstart)
    cases (request_course hcourse hsound).symm.trans h
    exact World.seat_launched config k s.world

/-- What is told when a heartbeat is stopped. -/
def stopEvents (name : String) : List Event :=
  [.stepped name .started .stopping .stop, .workerExiting name, .stepped name .stopping .stopped .completed,
    .settled name .stopped]

/-- The hook that stops a heartbeat with a worker that returns has ended it. -/
theorem stop_outcome (config : SupervisorConfig) (hrunning : (s.world.pacemaker k).pulse.running = true)
    (hjoin : s.world.threads.joinOutcomes.head?.getD true = true) :
    (hooks config k).invoke .stop s = .ok (.ok ()) ⟨{ s.world with
      pacemaker := fun l =>
        if l = k then { s.world.pacemaker k with pulse := { (s.world.pacemaker k).pulse with running := false } }
        else s.world.pacemaker l
      threads := { s.world.threads with
        joinOutcomes := s.world.threads.joinOutcomes.tail
        deeds := s.world.threads.deeds ++ ThreadDeed.ended (heartbeat config k).threadName } },
      s.journal ++ [.workerExiting (heartbeat config k).name]⟩ := by
  have hpulse : ((World.pulsePart k).get s.world).running = true := hrunning
  have hcall : (heartbeat config k).joinWorker (World.pulsePart k) (ThreadHost.threads World.threadsPart) s = _ :=
    Heartbeat.joinWorker_on_paper World.lawful_threadsPart hpulse rfl hjoin
  exact hcall

/-- A beating heartbeat whose worker returns is halted by a stop. -/
theorem stop_apply (hk : (s.world.pacemaker k).Beating) (hjoin : s.world.threads.joinOutcomes.head?.getD true = true) :
    ((manager config).component k).request .stop s =
      .ok (.ok ()) ⟨s.world.halted config [k], s.journal ++ stopEvents (heartbeat config k).name⟩ := by
  have hsound : (s.world.pacemaker k).machine.Sound := hk.machine ▸ ⟨trivial, by decide⟩
  have hne : (s.world.pacemaker k).machine.state ≠ .failed := by rw [hk.machine]; decide
  have hedge : transition (s.world.pacemaker k).machine.state Request.stop.trigger (hooks config k).resettable =
      some Request.stop.passage := by rw [hk.machine]; rfl
  have hcourse := Machine.Course.direct hne hedge (.done (stop_outcome config (s := s.tell _) hk.running hjoin))
  rw [request_course hcourse hsound, ← World.seat_halted, hk.machine]
  simp only [Stage.tell, List.append_assoc]
  rfl

/-! ## Batches -/

/-- Starts that all go well leave resting heartbeats launched. -/
theorem startAll_launched {ks : List Nat} (hks : ∀ k ∈ ks, (s.world.pacemaker k).Resting) (hnodup : ks.Nodup)
    (h : Batch.attempt .start (ks.map (manager config).component) s = .ok [] t) :
    t.world = s.world.launched config ks := by
  induction ks generalizing s with
  | nil =>
    cases h
    rw [World.launched_nil]
  | cons k ks ih =>
    obtain ⟨u, hu, hrest⟩ := Batch.of_attempt_cons h
    have hworld := start_launched (hks k List.mem_cons_self) hu
    have hk : k ∉ ks := (List.nodup_cons.1 hnodup).1
    rw [← World.launched_launched, ← hworld]
    refine ih (fun l hl => ?_) (List.nodup_cons.1 hnodup).2 hrest
    have hne : l ≠ k := fun e => hk (e ▸ hl)
    rw [hworld]
    simpa [World.launched, hne] using hks l (List.mem_cons_of_mem k hl)

/-- Stops of beating heartbeats whose workers all return leave them halted, one after the other. -/
theorem stopAll_apply {ks : List Nat} (hks : ∀ k ∈ ks, (s.world.pacemaker k).Beating) (hnodup : ks.Nodup)
    (hjoins : ∀ returned ∈ s.world.threads.joinOutcomes, returned = true) :
    Batch.attempt .stop (ks.map (manager config).component) s =
      .ok [] ⟨s.world.halted config ks, s.journal ++ ks.flatMap fun k => stopEvents (heartbeat config k).name⟩ := by
  induction ks generalizing s with
  | nil => rw [World.halted_nil, List.flatMap_nil, List.append_nil]; rfl
  | cons k ks ih =>
    have hjoin : s.world.threads.joinOutcomes.head?.getD true = true := by
      cases hs : s.world.threads.joinOutcomes with
      | nil => rfl
      | cons returned rest => exact hjoins returned (hs ▸ List.mem_cons_self)
    have hk : k ∉ ks := (List.nodup_cons.1 hnodup).1
    rw [List.map_cons, Batch.attempt_cons (stop_apply (hks k List.mem_cons_self) hjoin),
      ih (fun l hl => ?_) (List.nodup_cons.1 hnodup).2 fun returned hr => hjoins returned (List.mem_of_mem_tail ?_),
      World.halted_halted, List.append_assoc, List.flatMap_cons]
    · have hne : l ≠ k := fun e => hk (e ▸ hl)
      simpa [World.halted, hne] using hks l (List.mem_cons_of_mem k hl)
    · simpa [World.halted] using hr

end Daemon

end Supervision

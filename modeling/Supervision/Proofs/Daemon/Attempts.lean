import Supervision.Proofs.Daemon.Waiting
import Supervision.Proofs.Visits

/-!
# Starts of heartbeats

A start of a resting heartbeat launches it, or leaves it failed without a worker if the operating system refuses the thread. A batch
of starts goes on to the next heartbeat in either case, and `World.Attempted` is what it comes to. A thread whose name has a NUL in
it cannot even be asked for: the start of such a heartbeat panics, and with it the batch (`startAll_panics`).
-/

namespace Supervision

namespace Daemon

/-- A heartbeat that has failed and has no worker. -/
structure Pacemaker.Fallen (p : Pacemaker) : Prop where
  machine : ∃ cause, p.machine = ⟨.failed, some cause⟩
  running : p.pulse.running = false

namespace World

/-- Those of some heartbeats that have a worker. -/
def workers (ks : List Nat) (w : World) : List Nat :=
  ks.filter fun k => (w.pacemaker k).pulse.running

/-- What starts of some heartbeats come to, each of which may be refused its thread. -/
structure Attempted (config : SupervisorConfig) (ks : List Nat) (w w' : World) : Prop where
  settled : ∀ k ∈ ks, (w'.pacemaker k).Beating ∨ (w'.pacemaker k).Fallen
  others : ∀ k, k ∉ ks → w'.pacemaker k = w.pacemaker k
  joins : w'.threads.joinOutcomes = w.threads.joinOutcomes
  deeds : w'.threads.deeds = w.threads.deeds ++ (w'.workers ks).map fun k => .spawned (heartbeat config k).threadName
  rest : w' = { w with pacemaker := w'.pacemaker, threads := w'.threads }

variable {config : SupervisorConfig} {k : Nat} {ks : List Nat} {w u w' : World}

theorem workers_cons (k : Nat) (ks : List Nat) (w : World) : w.workers (k :: ks) = w.workers [k] ++ w.workers ks := by
  rw [workers, workers, workers, ← List.filter_append, List.singleton_append]

theorem workers_congr (h : ∀ k ∈ ks, w'.pacemaker k = w.pacemaker k) : w'.workers ks = w.workers ks :=
  List.filter_congr fun k hk => by rw [h k hk]

theorem attempted_nil (config : SupervisorConfig) (w : World) : Attempted config [] w w :=
  ⟨nofun, fun _ _ => rfl, rfl, (List.append_nil _).symm, rfl⟩

/-- Starts come one after the other. -/
theorem Attempted.cons (h : Attempted config [k] w u) (h' : Attempted config ks u w') (hk : k ∉ ks) :
    Attempted config (k :: ks) w w' := by
  have hown : w'.pacemaker k = u.pacemaker k := h'.others k hk
  refine ⟨fun l hl => ?_, fun l hl => ?_, h'.joins.trans h.joins, ?_, ?_⟩
  · rcases List.mem_cons.1 hl with rfl | hl
    · rw [hown]
      exact h.settled l List.mem_cons_self
    · exact h'.settled l hl
  · rw [List.mem_cons, not_or] at hl
    rw [h'.others l hl.2, h.others l (by simpa using hl.1)]
  · have hfirst : w'.workers [k] = u.workers [k] := workers_congr (by simpa using hown)
    rw [h'.deeds, h.deeds, workers_cons k ks, hfirst, List.map_append, List.append_assoc]
  · rw [h'.rest, h.rest]

end World

variable {config : SupervisorConfig} {k : Nat} {s : Stage World}

/-! ## One heartbeat -/

/-- What is told when a heartbeat is started. -/
def startEvents (name : String) : List Event :=
  [.stepped name .stopped .starting .start, .stepped name .starting .started .completed, .settled name .started]

/-- A resting heartbeat is launched by a start if there is nothing against its worker. -/
theorem start_apply (hk : (s.world.pacemaker k).Resting)
    (hname : ThreadHost.nulPosition? (heartbeat config k).threadName = none)
    (houtcome : s.world.threads.spawnOutcomes.head?.join = none) :
    ((manager config).component k).request .start s =
      .ok (.ok ()) ⟨s.world.launched config [k], s.journal ++ startEvents (heartbeat config k).name⟩ := by
  have hsound : (s.world.pacemaker k).machine.Sound := hk.machine ▸ Machine.sound_default
  have hne : (s.world.pacemaker k).machine.state ≠ .failed := by rw [hk.machine]; decide
  have hedge : transition (s.world.pacemaker k).machine.state Request.start.trigger (hooks config k).resettable =
      some Request.start.passage := by rw [hk.machine]; rfl
  have hcourse := Machine.Course.direct hne hedge (.done (start_spawned config (s := s.tell _) hk.running hname houtcome))
  rw [request_course hcourse hsound, ← World.seat_launched, hk.machine]
  simp only [Stage.tell, List.append_assoc]
  rfl

/-- A start of a resting heartbeat launches it, or leaves it failed without a worker. -/
theorem start_attempted (hk : (s.world.pacemaker k).Resting)
    (hname : ThreadHost.nulPosition? (heartbeat config k).threadName = none) :
    ∃ reply t, ((manager config).component k).request .start s = .ok reply t ∧ World.Attempted config [k] s.world t.world := by
  cases houtcome : s.world.threads.spawnOutcomes.head?.join with
  | none =>
    refine ⟨_, _, start_apply hk hname houtcome, ⟨fun l hl => .inl ?_, fun l hl => ?_, rfl, ?_, rfl⟩⟩
    · simpa [World.launched, List.mem_singleton.1 hl] using Pacemaker.beating_launched _
    · simp [World.launched, List.mem_singleton.not.1 hl]
    · simp [World.launched, World.workers, Pacemaker.launched]
  | some message =>
    have hsound : (s.world.pacemaker k).machine.Sound := hk.machine ▸ Machine.sound_default
    have hne : (s.world.pacemaker k).machine.state ≠ .failed := by rw [hk.machine]; decide
    have hedge : transition (s.world.pacemaker k).machine.state Request.start.trigger (hooks config k).resettable =
        some Request.start.passage := by rw [hk.machine]; rfl
    have hstart : ∀ events, (hooks config k).invoke .start (s.tell events) = .ok (.error ⟨message, []⟩)
        ⟨{ s.world with threads := { s.world.threads with spawnOutcomes := s.world.threads.spawnOutcomes.tail } },
          s.journal ++ events⟩ := by
      intro events
      have hpulse : ((World.pulsePart k).get (s.tell events).world).running = false := hk.running
      have hspawn : ThreadHost.spawn World.threadsPart _ (s.tell events) = _ := ThreadHost.spawn_refused hname houtcome
      have hrefused : (heartbeat config k).start (World.pulsePart k) (ThreadHost.threads World.threadsPart) _ = _ :=
        Heartbeat.start_refused hpulse hspawn
      exact hrefused
    have hcourse := Machine.Course.direct hne hedge (.failed (hstart _) rfl)
    refine ⟨_, _, request_course hcourse hsound, ⟨fun l hl => .inr ?_, fun l hl => ?_, rfl, ?_, rfl⟩⟩
    · obtain rfl := List.mem_singleton.1 hl
      exact ⟨⟨⟨message, []⟩, by simp [World.machinePart, World.pacemakerPart, Part.comp]⟩,
        by simpa [World.machinePart, World.pacemakerPart, Part.comp] using hk.running⟩
    · simp [World.machinePart, World.pacemakerPart, Part.comp, List.mem_singleton.not.1 hl]
    · simp [World.workers, World.machinePart, World.pacemakerPart, Part.comp, hk.running]

/-- A start of a resting heartbeat panics if no thread can be given the name of its worker. -/
theorem start_unnameable (hk : (s.world.pacemaker k).Resting)
    (hname : ThreadHost.nulPosition? (heartbeat config k).threadName ≠ none) :
    ∃ message t, ((manager config).component k).request .start s = .error (.panic message) t := by
  obtain ⟨position, hposition⟩ := Option.ne_none_iff_exists'.1 hname
  have hne : (s.world.pacemaker k).machine.state ≠ .failed := by rw [hk.machine]; decide
  have hedge : transition (s.world.pacemaker k).machine.state Request.start.trigger (hooks config k).resettable =
      some Request.start.passage := by rw [hk.machine]; rfl
  obtain ⟨message, hstart⟩ := start_panics config (s := s.tell _) hk.running hposition
  obtain ⟨t, ht⟩ := Machine.component_interrupted (World.machinePart k) rfl hne hedge hstart
  exact ⟨message, t, ht⟩

/-! ## Batches -/

namespace World

/-- Heartbeats that wait for their turns to be started. -/
structure Startable (config : SupervisorConfig) (ks : List Nat) (w : World) : Prop where
  resting : ∀ k ∈ ks, (w.pacemaker k).Resting
  nodup : ks.Nodup
  names : ∀ k ∈ ks, ThreadHost.nulPosition? (heartbeat config k).threadName = none

variable {ks : List Nat} {w w' : World}

theorem Startable.tail (h : Startable config (k :: ks) w) (hothers : ∀ l, l ∉ [k] → w'.pacemaker l = w.pacemaker l) :
    Startable config ks w' := by
  obtain ⟨hk, hnodup⟩ := List.nodup_cons.1 h.nodup
  refine ⟨fun l hl => ?_, hnodup, fun l hl => h.names l (List.mem_cons_of_mem k hl)⟩
  rw [hothers l fun e => hk (List.mem_singleton.1 e ▸ hl)]
  exact h.resting l (List.mem_cons_of_mem k hl)

end World

/-- A round of starts reaches every heartbeat, whichever of them are refused their threads. -/
theorem startAll_attempted (ks : List Nat) (s : Stage World) (hs : World.Startable config ks s.world) :
    ∃ failures t, Batch.attempt .start (ks.map (manager config).component) s = .ok failures t ∧
      World.Attempted config ks s.world t.world := by
  refine Batch.attempt_steps (World.attempted_nil config) (fun k ks s hs => ?_) ks s hs
  obtain ⟨reply, t, ht, hattempted⟩ := start_attempted (hs.resting k List.mem_cons_self) (hs.names k List.mem_cons_self)
  exact ⟨reply, t, ht, hs.tail hattempted.others, fun w hw => hattempted.cons hw (List.nodup_cons.1 hs.nodup).1⟩

/-- A round of starts panics at the first heartbeat to whose worker no name can be given, whatever became of those before it. -/
theorem startAll_panics {ks : List Nat} (hks : ∀ k ∈ ks, (s.world.pacemaker k).Resting) (hnodup : ks.Nodup)
    (hname : ∃ k ∈ ks, ThreadHost.nulPosition? (heartbeat config k).threadName ≠ none) :
    ∃ message t, Batch.attempt .start (ks.map (manager config).component) s = .error (.panic message) t := by
  induction ks generalizing s with
  | nil => obtain ⟨k, hk, -⟩ := hname; cases hk
  | cons k ks ih =>
    obtain ⟨hk, hnodup'⟩ := List.nodup_cons.1 hnodup
    have hresting := hks k List.mem_cons_self
    rw [List.map_cons, Batch.attempt]
    -- either the panic is at the first of them, or that one answers and the panic is at a later one
    by_cases hfirst : ThreadHost.nulPosition? (heartbeat config k).threadName = none
    · obtain ⟨reply, t, ht, hattempted⟩ := start_attempted hresting hfirst
      have hlater : ∃ l ∈ ks, ThreadHost.nulPosition? (heartbeat config l).threadName ≠ none := by
        obtain ⟨l, hl, hnul⟩ := hname
        rcases List.mem_cons.1 hl with rfl | hl
        · exact absurd hfirst hnul
        · exact ⟨l, hl, hnul⟩
      have hrest : ∀ l ∈ ks, (t.world.pacemaker l).Resting := by
        intro l hl
        rw [hattempted.others l fun e => hk (List.mem_singleton.1 e ▸ hl)]
        exact hks l (List.mem_cons_of_mem k hl)
      rw [Act.bind_ok ht]
      cases reply with
      | ok => exact ih hrest hnodup' hlater
      | error e =>
        obtain ⟨message, u, hu⟩ := ih (s := t.tell [.batchFailure .start _ e]) hrest hnodup' hlater
        exact ⟨message, u, (Act.bind_ok (Act.log_apply _ _)).trans (Act.bind_error hu)⟩
    · obtain ⟨message, t, ht⟩ := start_unnameable hresting hfirst
      exact ⟨message, t, Act.bind_error ht⟩

end Daemon

end Supervision

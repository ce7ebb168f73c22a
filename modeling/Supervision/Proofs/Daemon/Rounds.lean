import Supervision.Config.Validation
import Supervision.Proofs.Daemon.Attempts
import Supervision.Proofs.Recording
import Mathlib.Data.List.Nodup

/-!
# Rounds of starts and stops

The heartbeats of a configuration, registered with a manager, can be started and stopped in turn as often as one likes if a thread
can be given the name of each of them, and not even once if not (`Daemon.enrolled_runs_iff_no_nul`). The operating system is taken
to spawn every thread that it can name, and its threads to return when they are joined.

The names of threads end where a NUL is. No rule for configurations forbids a NUL in the name of a heartbeat, so a valid
configuration may still not run (`Daemon.valid_may_not_run`).
-/

namespace Supervision

/-- A host on which nothing goes wrong with threads that can be named. -/
structure ThreadHost.Cooperative (host : ThreadHost) : Prop where
  spawns : ∀ outcome ∈ host.spawnOutcomes, outcome = none
  joins : ∀ returned ∈ host.joinOutcomes, returned = true

namespace Daemon

variable {config : SupervisorConfig} {k : Nat} {s : Stage World}

/-! ## Starting heartbeats -/

/-- If no spawn to come is refused, the next one is not. -/
theorem spawn_next (h : ∀ outcome ∈ s.world.threads.spawnOutcomes, outcome = none) :
    s.world.threads.spawnOutcomes.head?.join = none := by
  cases houtcomes : s.world.threads.spawnOutcomes with
  | nil => rfl
  | cons outcome rest => exact h outcome (houtcomes ▸ List.mem_cons_self)

/-- Heartbeats other than the one that was started are as they were. -/
theorem resting_launched {ks : List Nat} (hks : ∀ l ∈ k :: ks, (s.world.pacemaker l).Resting) (hk : k ∉ ks) :
    ∀ l ∈ ks, ((s.world.launched config [k]).pacemaker l).Resting := by
  intro l hl
  have hne : l ≠ k := fun e => hk (e ▸ hl)
  simpa [World.launched, hne] using hks l (List.mem_cons_of_mem k hl)

/-- To start a heartbeat leaves no other outcomes to come than there were. -/
theorem spawns_launched {ks : List Nat} (h : ∀ outcome ∈ s.world.threads.spawnOutcomes, outcome = none) :
    ∀ outcome ∈ (s.world.launched config ks).threads.spawnOutcomes, outcome = none :=
  fun outcome houtcome => h outcome (List.mem_of_mem_drop houtcome)

/-- Resting heartbeats are launched one after the other if there is nothing against their workers. -/
theorem startAll_apply {ks : List Nat} (hks : ∀ k ∈ ks, (s.world.pacemaker k).Resting) (hnodup : ks.Nodup)
    (hnames : ∀ k ∈ ks, ThreadHost.nulPosition? (heartbeat config k).threadName = none)
    (hspawns : ∀ outcome ∈ s.world.threads.spawnOutcomes, outcome = none) :
    Batch.attempt .start (ks.map (manager config).component) s =
      .ok [] ⟨s.world.launched config ks, s.journal ++ ks.flatMap fun k => startEvents (heartbeat config k).name⟩ := by
  induction ks generalizing s with
  | nil => rw [World.launched_nil, List.flatMap_nil, List.append_nil]; rfl
  | cons k ks ih =>
    obtain ⟨hk, hnodup'⟩ := List.nodup_cons.1 hnodup
    have hstart := start_apply (hks k List.mem_cons_self) (hnames k List.mem_cons_self) (spawn_next hspawns)
    rw [List.map_cons, Batch.attempt_cons hstart,
      ih (resting_launched hks hk) hnodup' (fun l hl => hnames l (List.mem_cons_of_mem k hl)) (spawns_launched hspawns),
      World.launched_launched, List.append_assoc, List.flatMap_cons]

/-! ## Rounds -/

/-- A heartbeat behind so many starts and stops in turn: it beats behind a start, and rests otherwise. -/
def Pacemaker.Behind (n : Nat) (p : Pacemaker) : Prop :=
  if n % 2 = 1 then p.Beating else p.Resting

/-- What comes behind so many starts and stops in turn. -/
def nextTurn (n : Nat) : Request :=
  if n % 2 = 0 then .start else .stop

/-- So many starts and stops in turn, a start first. -/
def turns : Nat → List Request
  | 0 => []
  | n + 1 => turns n ++ [nextTurn n]

/-- Any number of starts and stops in turn goes well, and behind the last of them every heartbeat beats or rests as it should. -/
def Runs (config : SupervisorConfig) (s : Stage World) : Prop :=
  ∀ n, ∃ t, (turns n).mapM (manager config).request s = .ok (List.replicate n (.ok ())) t ∧
    ∀ k < config.heartbeat.length, (t.world.pacemaker k).Behind n

/-- A world behind so many starts and stops in turn. -/
structure Round (config : SupervisorConfig) (n : Nat) (w : World) : Prop where
  members : w.components.members = List.range config.heartbeat.length
  host : w.threads.Cooperative
  pacemaker : ∀ k < config.heartbeat.length, (w.pacemaker k).Behind n

/-- A request to the manager is a round of requests to the heartbeats, in the order of the operation, and what is made of it. -/
theorem request_round (hmembers : s.world.components.members = List.range config.heartbeat.length) (operation : Request) :
    (manager config).request operation s =
      (Batch.attempt operation ((Batch.order operation (List.range config.heartbeat.length)).map (manager config).component) >>=
        fun failures => Batch.Outcome.finish ⟨operation, config.heartbeat.length, failures⟩)
        (s.tell [.batchStarted operation config.heartbeat.length]) := by
  have hregistered : ((manager config).seat.get s.world).members = List.range config.heartbeat.length := hmembers
  rw [Manager.request_apply, hregistered, Batch.run_eq, Batch.order_map, List.length_map, List.length_range]
  exact Act.bind_ok (Act.log_apply _ _)

/-- A start of resting heartbeats panics if a thread cannot be given the name of some of them. -/
theorem request_panics (hmembers : s.world.components.members = List.range config.heartbeat.length)
    (hresting : ∀ k < config.heartbeat.length, (s.world.pacemaker k).Resting)
    (hname : ∃ k < config.heartbeat.length, ThreadHost.nulPosition? (heartbeat config k).threadName ≠ none) :
    ∃ message t, (manager config).request .start s = .error (.panic message) t := by
  obtain ⟨k, hk, hnul⟩ := hname
  obtain ⟨message, t, hstart⟩ := startAll_panics (s := s.tell [.batchStarted .start config.heartbeat.length])
    (fun l hl => hresting l (List.mem_range.1 hl)) List.nodup_range ⟨k, List.mem_range.2 hk, hnul⟩
  rw [request_round hmembers]
  exact ⟨message, t, Act.bind_error hstart⟩

theorem Cooperative.launched {w : World} (h : w.threads.Cooperative) (ks : List Nat) :
    (w.launched config ks).threads.Cooperative :=
  ⟨fun outcome houtcome => h.spawns outcome (List.mem_of_mem_drop houtcome), h.joins⟩

theorem Cooperative.halted {w : World} (h : w.threads.Cooperative) (ks : List Nat) :
    (w.halted config ks).threads.Cooperative :=
  ⟨h.spawns, fun returned hreturned => h.joins returned (List.mem_of_mem_drop hreturned)⟩

/-- Starts and stops in turn go on if a thread can be given the name of each heartbeat. -/
theorem Round.next {n : Nat} (hround : Round config n s.world)
    (hnames : ∀ k < config.heartbeat.length, ThreadHost.nulPosition? (heartbeat config k).threadName = none) :
    ∃ t, (manager config).request (nextTurn n) s = .ok (.ok ()) t ∧ Round config (n + 1) t.world := by
  have hmem : ∀ {operation k}, k ∈ Batch.order operation (List.range config.heartbeat.length) → k < config.heartbeat.length :=
    fun hk => List.mem_range.1 (Batch.mem_order.1 hk)
  -- behind an even number of turns everything rests and is started, behind an odd one everything beats and is stopped
  rcases Nat.mod_two_eq_zero_or_one n with hn | hn
  · have hresting : ∀ k ∈ Batch.order .start (List.range config.heartbeat.length), (s.world.pacemaker k).Resting :=
      fun k hk => by simpa [Pacemaker.Behind, hn] using hround.pacemaker k (hmem hk)
    have hstart := startAll_apply (s := s.tell [.batchStarted .start config.heartbeat.length]) hresting
      (Batch.nodup_order _ List.nodup_range) (fun k hk => hnames k (hmem hk)) hround.host.spawns
    rw [nextTurn, if_pos hn, request_round hround.members, Act.bind_ok hstart]
    refine ⟨_, rfl, hround.members, Cooperative.launched hround.host _, fun k hk => ?_⟩
    simpa [Pacemaker.Behind, Nat.add_mod, hn, World.launched, Batch.mem_order, hk] using Pacemaker.beating_launched _
  · have hbeating : ∀ k ∈ Batch.order .stop (List.range config.heartbeat.length), (s.world.pacemaker k).Beating :=
      fun k hk => by simpa [Pacemaker.Behind, hn] using hround.pacemaker k (hmem hk)
    have hstop : Batch.attempt .stop ((Batch.order .stop (List.range config.heartbeat.length)).map (manager config).component)
        _ = _ :=
      stopAll_apply (s := s.tell [.batchStarted .stop config.heartbeat.length]) hbeating
        (Batch.nodup_order _ List.nodup_range) hround.host.joins
    rw [nextTurn, if_neg (by omega), request_round hround.members, Act.bind_ok hstop]
    refine ⟨_, rfl, hround.members, Cooperative.halted hround.host _, fun k hk => ?_⟩
    simpa [Pacemaker.Behind, Nat.add_mod, hn, World.halted, Batch.mem_order, hk] using Pacemaker.resting_halted _

/-- Any number of starts and stops in turn goes well if a thread can be given the name of each heartbeat. -/
theorem Round.turns (hround : Round config 0 s.world)
    (hnames : ∀ k < config.heartbeat.length, ThreadHost.nulPosition? (heartbeat config k).threadName = none) (n : Nat) :
    ∃ t, (turns n).mapM (manager config).request s = .ok (List.replicate n (.ok ())) t ∧ Round config n t.world := by
  induction n with
  | zero => exact ⟨s, rfl, hround⟩
  | succ n ih =>
    obtain ⟨t, ht, hround'⟩ := ih
    obtain ⟨u, hu, hround''⟩ := hround'.next hnames
    have hlast : [nextTurn n].mapM (manager config).request t = .ok [.ok ()] u := by
      rw [List.mapM_cons, Act.bind_ok hu]
      rfl
    refine ⟨u, ?_, hround''⟩
    rw [Daemon.turns, List.mapM_append, Act.bind_ok ht, Act.bind_ok hlast, List.replicate_succ']
    rfl

/-- The first start panics if a thread cannot be given the name of some heartbeat. -/
theorem Round.start_panics (hround : Round config 0 s.world)
    (hname : ∃ k < config.heartbeat.length, ThreadHost.nulPosition? (heartbeat config k).threadName ≠ none) :
    ∃ message t, (manager config).request .start s = .error (.panic message) t :=
  request_panics hround.members hround.pacemaker hname

/-- What is never interrupted runs only heartbeats whose names a thread can be given. -/
theorem Round.runs_iff (hround : Round config 0 s.world) :
    Runs config s ↔ ∀ k < config.heartbeat.length, ThreadHost.nulPosition? (heartbeat config k).threadName = none := by
  constructor
  · intro hruns k hk
    by_contra hname
    obtain ⟨message, t, hstart⟩ := hround.start_panics ⟨k, hk, hname⟩
    obtain ⟨u, hu, -⟩ := hruns 1
    have hfirst : (Daemon.turns 1).mapM (manager config).request s = .error (.panic message) t := by
      rw [show Daemon.turns 1 = [.start] from rfl, List.mapM_cons, Act.bind_error hstart]
    cases hfirst.symm.trans hu
  · intro hnames n
    obtain ⟨t, ht, hround'⟩ := hround.turns hnames n
    exact ⟨t, ht, hround'.pacemaker⟩

/-- A thread can be given the name of a heartbeat exactly if there is no NUL in it. -/
theorem nameable_iff (config : SupervisorConfig) (hk : k < config.heartbeat.length) :
    ThreadHost.nulPosition? (heartbeat config k).threadName = none ↔ '\x00' ∉ config.heartbeat[k].name.toList := by
  have hname : (heartbeat config k).name = config.heartbeat[k].name := by
    simp [heartbeat, List.getD_eq_getElem?_getD, hk]
  rw [ThreadHost.nulPosition?_eq_none, Heartbeat.nul_mem_threadName, hname]

/-- Threads can be given the names of all heartbeats exactly if there is no NUL in any of them. -/
theorem all_nameable_iff (config : SupervisorConfig) :
    (∀ k < config.heartbeat.length, ThreadHost.nulPosition? (heartbeat config k).threadName = none) ↔
      ∀ h ∈ config.heartbeat, '\x00' ∉ h.name.toList := by
  constructor
  · intro hnames h hh
    obtain ⟨k, hk, rfl⟩ := List.getElem_of_mem hh
    exact (nameable_iff config hk).1 (hnames k hk)
  · intro hnames k hk
    exact (nameable_iff config hk).2 (hnames _ (List.getElem_mem hk))

/-- Nothing has been started or stopped when the heartbeats are registered. -/
theorem enrol_round (config : SupervisorConfig) (hfresh : Fresh s.world) (hhost : s.world.threads.Cooperative) :
    ∃ t, enrol config (List.range config.heartbeat.length) s = .ok () t ∧ Round config 0 t.world := by
  obtain ⟨journal, hj⟩ := enrol_apply config (List.range config.heartbeat.length) s
  refine ⟨_, hj, ?_, hhost, fun k _ => hfresh.resting k⟩
  rw [hfresh.components]
  exact Registry.members_foldl_insert List.nodup_range

/-- The heartbeats of any configuration, valid or not, are registered one by one, and from then on starts and stops in turn go well
as often as one likes, with every heartbeat started and its worker running behind each start and stopped without a worker behind
each stop, if and only if there is no NUL in the name of a heartbeat. The first start panics if there is one. -/
theorem enrolled_runs_iff_no_nul (config : SupervisorConfig) (hfresh : Fresh s.world) (hhost : s.world.threads.Cooperative) :
    ∃ t, enrol config (List.range config.heartbeat.length) s = .ok () t ∧
      (manager config).size t = .ok config.heartbeat.length t ∧
      (Runs config t ↔ ∀ h ∈ config.heartbeat, '\x00' ∉ h.name.toList) ∧
      ((∃ h ∈ config.heartbeat, '\x00' ∈ h.name.toList) →
        ∃ message u, (manager config).request .start t = .error (.panic message) u) := by
  obtain ⟨t, ht, hround⟩ := enrol_round config hfresh hhost
  have hsize : t.world.components.size = config.heartbeat.length := by
    rw [Registry.size, hround.members, List.length_range]
  refine ⟨t, ht, ?_, hround.runs_iff.trans (all_nameable_iff config), ?_⟩
  · simp [manager, Manager.size, World.componentsPart, Act.map_apply, hsize]
  · rintro ⟨h, hh, hnul⟩
    obtain ⟨k, hk, rfl⟩ := List.getElem_of_mem hh
    exact hround.start_panics ⟨k, hk, fun hname => (nameable_iff config hk).1 hname hnul⟩

namespace Rehearsal

/-- A valid configuration of two heartbeats. -/
def pairConfig : SupervisorConfig where
  heartbeat := [⟨"first", 1000⟩, ⟨"zweiter Takt", 20⟩]

/-- A valid configuration of a heartbeat with a NUL in its name. -/
def nulConfig : SupervisorConfig where
  heartbeat := [⟨"nul\x00", 1000⟩]

theorem pairConfig_valid : pairConfig.validate = .ok () := by
  have hviolation : pairConfig.violation? = none := by decide +kernel
  rw [SupervisorConfig.validate, hviolation]

theorem nulConfig_valid : nulConfig.validate = .ok () := by
  have hviolation : nulConfig.violation? = none := by decide +kernel
  rw [SupervisorConfig.validate, hviolation]

end Rehearsal

/-- `enrolled_runs_iff_no_nul` for a valid configuration of two heartbeats: they can be started and stopped in turn. -/
theorem enrolled_runs_iff_no_nul_rehearsal :
    Rehearsal.pairConfig.validate = .ok () ∧
      ∃ t, enrol Rehearsal.pairConfig [0, 1] ⟨{ threads := ⟨[none], [true], []⟩ }, []⟩ = .ok () t ∧
        (manager Rehearsal.pairConfig).size t = .ok 2 t ∧ Runs Rehearsal.pairConfig t := by
  obtain ⟨t, ht, hsize, hruns, -⟩ := enrolled_runs_iff_no_nul (s := ⟨{ threads := ⟨[none], [true], []⟩ }, []⟩)
    Rehearsal.pairConfig ⟨fun _ => ⟨rfl, rfl⟩, rfl, rfl, rfl, rfl⟩ ⟨by decide, by decide⟩
  exact ⟨Rehearsal.pairConfig_valid, t, ht, hsize, hruns.2 (by decide +kernel)⟩

/-- A valid configuration may not run: no rule forbids a NUL in the name of a heartbeat. -/
theorem valid_may_not_run :
    ¬ ∀ config : SupervisorConfig, config.validate = .ok () → ∀ s t : Stage World, Fresh s.world →
      s.world.threads.Cooperative → enrol config (List.range config.heartbeat.length) s = .ok () t → Runs config t := by
  intro hruns
  have hfresh : Fresh {} := ⟨fun _ => ⟨rfl, rfl⟩, rfl, rfl, rfl, rfl⟩
  obtain ⟨t, ht, hround⟩ := enrol_round (s := ⟨{}, []⟩) Rehearsal.nulConfig hfresh ⟨nofun, nofun⟩
  have hrun := hruns Rehearsal.nulConfig Rehearsal.nulConfig_valid ⟨{}, []⟩ t hfresh ⟨nofun, nofun⟩ ht
  have hnames := (all_nameable_iff _).1 (hround.runs_iff.1 hrun)
  exact hnames ⟨"nul\x00", 1000⟩ List.mem_cons_self (by decide)

end Daemon

end Supervision

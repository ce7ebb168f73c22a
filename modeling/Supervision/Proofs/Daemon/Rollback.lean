import Supervision.Proofs.Daemon.Rounds

/-!
# Start-ups that do not come to wait

A start-up spawns workers, and then it may be given up: over a thread that was refused, or over the exit hook. Every worker is
signalled and joined before it ends, in the reverse of the order in which they were spawned (`World.LeftAlone`). That is because a
batch reaches every heartbeat whatever the others answer, and because a stop does well with a heartbeat that failed to start: it has no
worker, its reset has nothing to join, and the stop behind the reset neither.

What a batch of stops makes of heartbeats that were started, well or ill, is `World.Withdrawn`. Where a name has a NUL in it there is
nothing to withdraw: asking for its thread is neither granted nor refused, but panics.
-/

namespace Supervision

namespace Daemon

namespace World

/-- What stops of some heartbeats come to, be they started or failed: those that had a worker have none any more. -/
structure Withdrawn (config : SupervisorConfig) (ks : List Nat) (w w' : World) : Prop where
  idle : ∀ k ∈ ks, (w'.pacemaker k).pulse.running = false
  resting : (∀ returned ∈ w.threads.joinOutcomes, returned = true) → ∀ k ∈ ks, (w'.pacemaker k).Resting
  others : ∀ k, k ∉ ks → w'.pacemaker k = w.pacemaker k
  joins : ∀ returned ∈ w'.threads.joinOutcomes, returned ∈ w.threads.joinOutcomes
  deeds : w'.threads.deeds = w.threads.deeds ++ (w.workers ks).flatMap fun k => ThreadDeed.ended (heartbeat config k).threadName

/-- What is done to a world of which nothing is left running: every worker that was spawned has been signalled and joined, once and
in the reverse order, and no heartbeat has one. If the workers returned, every heartbeat is stopped and has no failure on record. -/
structure LeftAlone (w w' : World) : Prop where
  deeds : ∃ names : List String,
    w'.threads.deeds = w.threads.deeds ++ names.map .spawned ++ names.reverse.flatMap ThreadDeed.ended
  idle : ∀ k, (w'.pacemaker k).pulse.running = false
  resting : (∀ returned ∈ w.threads.joinOutcomes, returned = true) → ∀ k, (w'.pacemaker k).Resting

variable {config : SupervisorConfig} {k : Nat} {ks : List Nat} {w u w' : World}

theorem withdrawn_nil (config : SupervisorConfig) (w : World) : Withdrawn config [] w w :=
  ⟨by simp, by simp, fun _ _ => rfl, fun _ h => h, (List.append_nil _).symm⟩

/-- Stops come one after the other. -/
theorem Withdrawn.cons (h : Withdrawn config [k] w u) (h' : Withdrawn config ks u w') (hk : k ∉ ks) :
    Withdrawn config (k :: ks) w w' := by
  have hown : w'.pacemaker k = u.pacemaker k := h'.others k hk
  refine ⟨fun l hl => ?_, fun hjoins l hl => ?_, fun l hl => ?_, fun b hb => h.joins b (h'.joins b hb), ?_⟩
  · rcases List.mem_cons.1 hl with rfl | hl
    · rw [hown]
      exact h.idle l List.mem_cons_self
    · exact h'.idle l hl
  · rcases List.mem_cons.1 hl with rfl | hl
    · rw [hown]
      exact h.resting hjoins l List.mem_cons_self
    · exact h'.resting (fun b hb => hjoins b (h.joins b hb)) l hl
  · rw [List.mem_cons, not_or] at hl
    rw [h'.others l hl.2, h.others l (by simpa using hl.1)]
  · -- a heartbeat is not touched before its turn
    have hlater : u.workers ks = w.workers ks :=
      workers_congr fun l hl => h.others l fun e => hk (List.mem_singleton.1 e ▸ hl)
    rw [h'.deeds, h.deeds, workers_cons k ks, hlater, List.flatMap_append, List.append_assoc]

end World

variable {config : SupervisorConfig} {k : Nat} {s t : Stage World}

/-! ## One heartbeat -/

/-- The hook that stops a heartbeat with a worker that has panicked has ended it all the same. -/
theorem stop_panicked (config : SupervisorConfig) (hrunning : (s.world.pacemaker k).pulse.running = true)
    (hjoin : s.world.threads.joinOutcomes.head?.getD true = false) :
    (hooks config k).invoke .stop s = .ok (.error (heartbeat config k).panicked) ⟨{ s.world with
      pacemaker := fun l =>
        if l = k then { s.world.pacemaker k with pulse := { (s.world.pacemaker k).pulse with running := false } }
        else s.world.pacemaker l
      threads := { s.world.threads with
        joinOutcomes := s.world.threads.joinOutcomes.tail
        deeds := s.world.threads.deeds ++ ThreadDeed.ended (heartbeat config k).threadName } }, s.journal⟩ := by
  have hpulse : ((World.pulsePart k).get s.world).running = true := hrunning
  have hcall : (heartbeat config k).joinWorker (World.pulsePart k) (ThreadHost.threads World.threadsPart) s = _ :=
    Heartbeat.joinWorker_on_paper World.lawful_threadsPart hpulse rfl hjoin
  simp only [Bool.false_eq_true, if_false, List.append_nil] at hcall
  exact hcall

/-- A stop of a started heartbeat ends its worker, and halts it if the worker returns. -/
theorem stop_beating (hk : (s.world.pacemaker k).Beating) :
    ∃ reply t, ((manager config).component k).request .stop s = .ok reply t ∧ World.Withdrawn config [k] s.world t.world := by
  cases hjoin : s.world.threads.joinOutcomes.head?.getD true with
  | true =>
    refine ⟨_, _, stop_apply hk hjoin, ⟨fun l hl => ?_, fun _ l hl => ?_, fun l hl => ?_, fun b hb => ?_, ?_⟩⟩
    · simp [World.halted, List.mem_singleton.1 hl, Pacemaker.halted]
    · simpa [World.halted, List.mem_singleton.1 hl] using Pacemaker.resting_halted _
    · simp [World.halted, List.mem_singleton.not.1 hl]
    · exact List.mem_of_mem_drop hb
    · simp [World.halted, World.workers, hk.running]
  | false =>
    have hsound : (s.world.pacemaker k).machine.Sound := hk.machine ▸ ⟨trivial, by decide⟩
    have hne : (s.world.pacemaker k).machine.state ≠ .failed := by rw [hk.machine]; decide
    have hedge : transition (s.world.pacemaker k).machine.state Request.stop.trigger (hooks config k).resettable =
        some Request.stop.passage := by rw [hk.machine]; rfl
    have hcourse := Machine.Course.direct hne hedge (.failed (stop_panicked config (s := s.tell _) hk.running hjoin) rfl)
    refine ⟨_, _, request_course hcourse hsound, ⟨fun l hl => ?_, fun hjoins => ?_, fun l hl => ?_, fun b hb => ?_, ?_⟩⟩
    · simp [World.machinePart, World.pacemakerPart, Part.comp, List.mem_singleton.1 hl]
    · -- the next join was to tell of a panic
      cases houtcomes : s.world.threads.joinOutcomes with
      | nil => simp [houtcomes] at hjoin
      | cons returned rest =>
        have hreturned := hjoins returned (by simp [houtcomes])
        simp [houtcomes, hreturned] at hjoin
    · simp [World.machinePart, World.pacemakerPart, Part.comp, List.mem_singleton.not.1 hl]
    · exact List.mem_of_mem_tail hb
    · simp [World.workers, World.machinePart, World.pacemakerPart, Part.comp, hk.running]

/-- A stop of a heartbeat that has failed without a worker resets it and halts it; no thread is ended. -/
theorem stop_fallen (hk : (s.world.pacemaker k).Fallen) :
    ∃ reply t, ((manager config).component k).request .stop s = .ok reply t ∧ World.Withdrawn config [k] s.world t.world := by
  obtain ⟨cause, hmachine⟩ := hk.machine
  have hsound : (s.world.pacemaker k).machine.Sound := hmachine ▸ ⟨trivial, by simp⟩
  have hfailed : (s.world.pacemaker k).machine.state = .failed := by rw [hmachine]
  have hidle : ∀ events, (heartbeat config k).joinWorker (World.pulsePart k) (ThreadHost.threads World.threadsPart)
      (s.tell events) = .ok (.ok ()) (s.tell events) :=
    fun events => Heartbeat.joinWorker_idle (s := s.tell events) hk.running
  have hreset : (hooks config k).invoke .reset (s.tell [.resetting (hooks config k).name .stop]) = .ok (.ok ()) _ := hidle _
  have hstop : (hooks config k).invoke .stop ((s.tell [.resetting (hooks config k).name .stop]).tell
      [.stepped (hooks config k).name .failed .stopping .stop]) = .ok (.ok ()) _ :=
    Heartbeat.joinWorker_idle (s := (s.tell _).tell _) hk.running
  have hcourse := Machine.Course.afterReset hfailed rfl hreset (.done hstop)
  refine ⟨_, _, request_course hcourse hsound, ⟨fun l hl => ?_, fun _ l hl => ?_, fun l hl => ?_, fun b hb => hb, ?_⟩⟩
  · simp [World.machinePart, World.pacemakerPart, Part.comp, List.mem_singleton.1 hl, hk.running]
  · exact ⟨by simp [World.machinePart, World.pacemakerPart, Part.comp, List.mem_singleton.1 hl, Request.goal],
      by simp [World.machinePart, World.pacemakerPart, Part.comp, List.mem_singleton.1 hl, hk.running]⟩
  · simp [World.machinePart, World.pacemakerPart, Part.comp, List.mem_singleton.not.1 hl]
  · simp [World.workers, World.machinePart, World.pacemakerPart, Part.comp, hk.running]

/-! ## Batches -/

namespace World

/-- Heartbeats that wait for their turns to be stopped. -/
structure Stoppable (ks : List Nat) (w : World) : Prop where
  settled : ∀ k ∈ ks, (w.pacemaker k).Beating ∨ (w.pacemaker k).Fallen
  nodup : ks.Nodup

variable {ks : List Nat} {w w' : World}

theorem Stoppable.tail (h : Stoppable (k :: ks) w) (hothers : ∀ l, l ∉ [k] → w'.pacemaker l = w.pacemaker l) :
    Stoppable ks w' := by
  obtain ⟨hk, hnodup⟩ := List.nodup_cons.1 h.nodup
  refine ⟨fun l hl => ?_, hnodup⟩
  rw [hothers l fun e => hk (List.mem_singleton.1 e ▸ hl)]
  exact h.settled l (List.mem_cons_of_mem k hl)

end World

/-- A round of stops reaches every heartbeat, whichever of their workers have panicked. -/
theorem stopAll_withdrawn (ks : List Nat) (s : Stage World) (hs : World.Stoppable ks s.world) :
    ∃ failures t, Batch.attempt .stop (ks.map (manager config).component) s = .ok failures t ∧
      World.Withdrawn config ks s.world t.world := by
  refine Batch.attempt_steps (World.withdrawn_nil config) (fun k ks s hs => ?_) ks s hs
  have hstop : ∃ reply t, ((manager config).component k).request .stop s = .ok reply t ∧
      World.Withdrawn config [k] s.world t.world := by
    rcases hs.settled k List.mem_cons_self with hbeating | hfallen
    · exact stop_beating hbeating
    · exact stop_fallen hfallen
  obtain ⟨reply, t, ht, hwithdrawn⟩ := hstop
  exact ⟨reply, t, ht, hs.tail hwithdrawn.others, fun w hw => hwithdrawn.cons hw (List.nodup_cons.1 hs.nodup).1⟩

/-- What the manager of the heartbeats makes of the world is what a round of requests does. -/
theorem request_related {R : World → World → Prop} {operation : Request}
    (hmembers : s.world.components.members = List.range config.heartbeat.length)
    (h : ∀ u : Stage World, u.world = s.world → ∃ failures t, Batch.attempt operation
      ((Batch.order operation (List.range config.heartbeat.length)).map (manager config).component) u = .ok failures t ∧
        R s.world t.world) :
    ∃ reply t, (manager config).request operation s = .ok reply t ∧ R s.world t.world := by
  obtain ⟨failures, t, ht, hR⟩ := h (s.tell [.batchStarted operation config.heartbeat.length]) rfl
  have hfinish := Batch.finish_apply ⟨operation, config.heartbeat.length, failures⟩ t
  exact ⟨_, _, (request_round hmembers operation).trans ((Act.bind_ok ht).trans hfinish), hR⟩

/-- A start of the manager reaches every heartbeat. -/
theorem start_manager (hmembers : s.world.components.members = List.range config.heartbeat.length)
    (hresting : ∀ k, (s.world.pacemaker k).Resting)
    (hnames : ∀ k < config.heartbeat.length, ThreadHost.nulPosition? (heartbeat config k).threadName = none) :
    ∃ reply t, (manager config).request .start s = .ok reply t ∧
      World.Attempted config (List.range config.heartbeat.length) s.world t.world := by
  refine request_related hmembers fun u hu => ?_
  rw [← hu]
  exact startAll_attempted _ u ⟨fun k _ => hu ▸ hresting k, List.nodup_range, fun k hk => hnames k (List.mem_range.1 hk)⟩

/-- A stop of the manager that is carried out quietly withdraws every heartbeat. -/
theorem stop_quietly (hmembers : s.world.components.members = List.range config.heartbeat.length)
    (hsettled : ∀ k < config.heartbeat.length, (s.world.pacemaker k).Beating ∨ (s.world.pacemaker k).Fallen) :
    ∃ t, discard ((manager config).quietly .stop) s = .ok () t ∧
      World.Withdrawn config (List.range config.heartbeat.length).reverse s.world t.world := by
  have hstop : ∃ reply t, (manager config).request .stop s = .ok reply t ∧
      World.Withdrawn config (List.range config.heartbeat.length).reverse s.world t.world := by
    refine request_related hmembers fun u hu => ?_
    rw [← hu]
    refine stopAll_withdrawn _ u ⟨fun k hk => ?_, Batch.nodup_order .stop List.nodup_range⟩
    rw [hu]
    exact hsettled k (List.mem_range.1 (List.mem_reverse.1 hk))
  obtain ⟨reply, t, ht, hwithdrawn⟩ := hstop
  obtain ⟨well, events, hquiet⟩ := Manager.quietly_apply ht
  exact ⟨t.tell events, Act.discard_ok hquiet, hwithdrawn⟩

/-- Heartbeats that were started, well or ill, and are withdrawn in the reverse order, are left alone. -/
theorem World.LeftAlone.of_withdrawn {w u u' w' : World} (hresting : ∀ k, (w.pacemaker k).Resting)
    (hattempted : World.Attempted config (List.range config.heartbeat.length) w u)
    (hpacemaker : u'.pacemaker = u.pacemaker) (hthreads : u'.threads = u.threads)
    (hwithdrawn : World.Withdrawn config (List.range config.heartbeat.length).reverse u' w') : World.LeftAlone w w' := by
  -- what is not a heartbeat of the configuration is as it was
  have hothers : ∀ k, ¬ k < config.heartbeat.length → w'.pacemaker k = w.pacemaker k := by
    intro k hk
    rw [hwithdrawn.others k (by simpa using hk), hpacemaker, hattempted.others k (by simpa using hk)]
  have hmem : ∀ k, k < config.heartbeat.length → k ∈ (List.range config.heartbeat.length).reverse :=
    fun k hk => List.mem_reverse.2 (List.mem_range.2 hk)
  refine ⟨⟨(u.workers (List.range config.heartbeat.length)).map fun k => (heartbeat config k).threadName, ?_⟩,
    fun k => ?_, fun hjoins k => ?_⟩
  · have hworkers : u'.workers (List.range config.heartbeat.length).reverse =
        (u.workers (List.range config.heartbeat.length)).reverse := by
      rw [World.workers, hpacemaker, List.filter_reverse]
      rfl
    rw [hwithdrawn.deeds, hthreads, hattempted.deeds, hworkers]
    simp [← List.map_reverse, List.flatMap_map, Function.comp_def]
  · by_cases hk : k < config.heartbeat.length
    · exact hwithdrawn.idle k (hmem k hk)
    · rw [hothers k hk]
      exact (hresting k).running
  · by_cases hk : k < config.heartbeat.length
    · refine hwithdrawn.resting (fun b hb => hjoins b ?_) k (hmem k hk)
      rwa [hthreads, hattempted.joins] at hb
    · rw [hothers k hk]
      exact hresting k

/-- Where no heartbeat was touched, nothing is left running. -/
theorem World.LeftAlone.of_untouched {w w' : World} (hresting : ∀ k, (w.pacemaker k).Resting)
    (hpacemaker : w'.pacemaker = w.pacemaker) (hthreads : w'.threads = w.threads) : World.LeftAlone w w' := by
  refine ⟨⟨[], by simp [hthreads]⟩, fun k => ?_, fun _ k => ?_⟩
  · rw [hpacemaker]
    exact (hresting k).running
  · rw [hpacemaker]
    exact hresting k

/-- To be left alone is a matter of threads and heartbeats. -/
theorem World.LeftAlone.congr {w w' u u' : World} (h : World.LeftAlone w w') (hthreads : u.threads = w.threads)
    (hpacemaker : u'.pacemaker = w'.pacemaker) (hthreads' : u'.threads = w'.threads) : World.LeftAlone u u' := by
  refine ⟨?_, fun k => ?_, fun hjoins k => ?_⟩
  · rw [hthreads, hthreads']
    exact h.deeds
  · rw [hpacemaker]
    exact h.idle k
  · rw [hpacemaker]
    exact h.resting (hthreads ▸ hjoins) k

/-! ## Starting up -/

/-- A start-up of a configuration answers, and nothing is left running unless the daemon waits then; only with a NUL in the name of
a heartbeat it may panic instead. -/
def Ends (config : SupervisorConfig) (x : Act World (Except Fault Stance)) (s : Stage World) : Prop :=
  (∃ outcome t, x s = .ok outcome t ∧ ((∃ config, outcome = .ok (.waiting config)) ∨ World.LeftAlone s.world t.world)) ∨
    ((∃ h ∈ config.heartbeat, '\x00' ∈ h.name.toList) ∧ ∃ message t, x s = .error (.panic message) t)

/-- A launch panics if there is a NUL in the name of a heartbeat. -/
theorem launch_panics (hmembers : s.world.components.members = List.range config.heartbeat.length)
    (hresting : ∀ k, (s.world.pacemaker k).Resting) (hnul : ∃ h ∈ config.heartbeat, '\x00' ∈ h.name.toList) :
    ∃ message t, launch config s = .error (.panic message) t := by
  obtain ⟨h, hh, hnul⟩ := hnul
  obtain ⟨k, hk, rfl⟩ := List.getElem_of_mem hh
  obtain ⟨message, t, hstart⟩ := request_panics hmembers (fun k _ => hresting k)
    ⟨k, hk, fun hname => (nameable_iff config hk).1 hname hnul⟩
  exact ⟨message, t, Act.bind_error hstart⟩

theorem launch_ends (hmembers : s.world.components.members = List.range config.heartbeat.length)
    (hresting : ∀ k, (s.world.pacemaker k).Resting) (hregistration : s.world.registration = {})
    (harming : s.world.arming = {}) : Ends config (launch config) s := by
  by_cases hnul : ∃ h ∈ config.heartbeat, '\x00' ∈ h.name.toList
  · exact .inr ⟨hnul, launch_panics hmembers hresting hnul⟩
  left
  have hnames := (all_nameable_iff config).2 fun h hh hname => hnul ⟨h, hh, hname⟩
  obtain ⟨reply, u, hu, hattempted⟩ := start_manager hmembers hresting hnames
  have hsettled : ∀ k < config.heartbeat.length, (u.world.pacemaker k).Beating ∨ (u.world.pacemaker k).Fallen :=
    fun k hk => hattempted.settled k (List.mem_range.2 hk)
  have hrest := hattempted.rest
  have hmembers' : u.world.components.members = List.range config.heartbeat.length := by rw [hrest]; exact hmembers
  rw [launch, Act.bind_ok hu]
  cases reply with
  | error e =>
    obtain ⟨t, ht, hwithdrawn⟩ := stop_quietly (s := u.tell [.startFailed e]) hmembers' hsettled
    refine ⟨_, t, (Act.bind_ok (Act.log_apply _ _)).trans ((Act.bind_ok ht).trans rfl), .inr ?_⟩
    exact World.LeftAlone.of_withdrawn hresting hattempted rfl rfl hwithdrawn
  | ok =>
    simp only [Act.ite_log_apply]
    generalize hv : u.tell _ = v
    have hworld : v.world = u.world := by rw [← hv]; rfl
    obtain ⟨e, journal, hadd⟩ | ⟨journal, hadd⟩ := add_outcome (s := v) config (by rw [hworld, hrest]; exact hregistration)
      (by rw [hworld, hrest]; exact harming)
    · rw [Act.bind_ok hadd]
      -- the exit hook is refused: what the coordinator keeps has changed, the heartbeats have not
      generalize hx : (⟨_, journal⟩ : Stage World) = x
      have hpacemaker : x.world.pacemaker = u.world.pacemaker := by rw [← hx, ← hworld]
      have hthreads : x.world.threads = u.world.threads := by rw [← hx, ← hworld]
      have hcomponents : x.world.components = u.world.components := by rw [← hx, ← hworld]
      obtain ⟨t, ht, hwithdrawn⟩ := stop_quietly (s := x.tell [.hookRefused e]) (by rw [← hmembers', ← hcomponents]; rfl)
        (fun k hk => by simpa [hpacemaker] using hsettled k hk)
      refine ⟨_, t, (Act.bind_ok (Act.log_apply _ _)).trans ((Act.bind_ok ht).trans rfl), .inr ?_⟩
      exact World.LeftAlone.of_withdrawn hresting hattempted hpacemaker hthreads hwithdrawn
    · rw [Act.bind_ok hadd]
      exact ⟨_, _, rfl, .inl ⟨config, rfl⟩⟩

theorem assemble_ends (options : Options) (hfresh : Fresh s.world) : Ends config (assemble options config) s := by
  obtain ⟨journal, henrol⟩ := enrol_apply config (List.range config.heartbeat.length) s
  have hmembers : ((List.range config.heartbeat.length).foldl .insert s.world.components).members =
      List.range config.heartbeat.length := by
    rw [hfresh.components]
    exact Registry.members_foldl_insert List.nodup_range
  have hempty : ∀ u : Stage World, (manager config).isEmpty u = .ok u.world.components.isEmpty u := fun _ => rfl
  unfold Ends
  rw [assemble, Act.bind_ok henrol, Act.bind_ok (hempty _)]
  simp only [Act.ite_log_apply]
  by_cases hdry : options.dryRun = true
  · rw [if_pos hdry]
    exact .inl ⟨_, _, rfl, .inr (.of_untouched hfresh.resting rfl rfl)⟩
  · rw [if_neg hdry]
    have hlaunch : ∀ events, Ends config (launch config) (Stage.tell ⟨{ s.world with
        components := (List.range config.heartbeat.length).foldl .insert s.world.components }, journal⟩ events) :=
      fun events => launch_ends hmembers hfresh.resting hfresh.registration hfresh.arming
    rcases hlaunch _ with ⟨outcome, t, ht, hends⟩ | hpanics
    · exact .inl ⟨outcome, t, ht, hends.imp_right fun hleft => hleft.congr rfl rfl rfl⟩
    · exact .inr hpanics

theorem supervise_ends (options : Options) (hfresh : Fresh s.world) : Ends config (supervise options config) s := by
  unfold Ends
  rw [supervise, Act.bind_ok (Act.log_apply _ _), Act.bind_ok (Act.log_apply _ _)]
  cases config.validate with
  | error e => exact .inl ⟨_, _, rfl, .inr (.of_untouched hfresh.resting rfl rfl)⟩
  | ok =>
    simp only
    by_cases honly : options.validateConfig = true
    · rw [if_pos honly]
      exact .inl ⟨_, _, rfl, .inr (.of_untouched hfresh.resting rfl rfl)⟩
    · rw [if_neg honly]
      exact assemble_ends (s := (s.tell _).tell _) options hfresh

theorem setUpLog_apply (options : Options) (config : SupervisorConfig) (filter : Option String) (s : Stage World) :
    ∃ outcome t, setUpLog options config filter s = .ok outcome t ∧ t.world.pacemaker = s.world.pacemaker ∧
      t.world.threads = s.world.threads := by
  rw [setUpLog]
  generalize LogPlan.make options config.logging filter = plan
  obtain ⟨complaints, _ | logPlan⟩ := plan
  · exact ⟨_, _, rfl, rfl, rfl⟩
  · exact ⟨_, _, rfl, rfl, rfl⟩

/-- A start-up answers, and nothing is left running unless the daemon waits then; only with a NUL in the name of a heartbeat that is
configured it may panic instead. -/
theorem startUp_ends (daemon : Daemon) (hfresh : Fresh s.world) :
    (∃ outcome t, daemon.startUp s = .ok outcome t ∧
      ((∃ config, outcome = .ok (.waiting config)) ∨ World.LeftAlone s.world t.world)) ∨
      ∃ config, daemon.config = .ok config ∧ (∃ h ∈ config.heartbeat, '\x00' ∈ h.name.toList) ∧
        ∃ message t, daemon.startUp s = .error (.panic message) t := by
  rw [startUp]
  by_cases hprint : daemon.options.printConfig = true
  · rw [if_pos hprint, printConfig]
    cases ({} : SupervisorConfig).toToml with
    | error e => exact .inl ⟨_, _, rfl, .inr (.of_untouched hfresh.resting rfl rfl)⟩
    | ok text => exact .inl ⟨_, _, rfl, .inr (.of_untouched hfresh.resting rfl rfl)⟩
  · rw [if_neg hprint]
    cases hload : daemon.config with
    | error e => exact .inl ⟨_, _, rfl, .inr (.of_untouched hfresh.resting rfl rfl)⟩
    | ok config =>
      simp only
      obtain ⟨reply, u, hu, hpacemaker, hthreads⟩ := setUpLog_apply daemon.options config daemon.filter? s
      rw [Act.bind_ok hu]
      cases reply with
      | error fault => exact .inl ⟨_, _, rfl, .inr (.of_untouched hfresh.resting hpacemaker hthreads)⟩
      | ok =>
        obtain ⟨hfresh', -⟩ := setUpLog_fresh hfresh hu
        have hsupervise : Ends config (supervise daemon.options config) u := supervise_ends daemon.options hfresh'
        rcases hsupervise with ⟨outcome, t, ht, hends⟩ | ⟨hnul, hpanics⟩
        · exact .inl ⟨outcome, t, ht, hends.imp_right fun hleft => hleft.congr hthreads.symm rfl rfl⟩
        · exact .inr ⟨config, rfl, hnul, hpanics⟩

/-- A daemon that is started up comes to wait, with every heartbeat started and the exit hook armed, or its process ends with nothing
left running: whatever it was called with and whatever its configuration is like, whichever of its heartbeats are refused a thread
and whatever the exit hook answers. Every worker that was spawned on the way has been signalled and joined, once and in the reverse
order, and if the workers returned every heartbeat is stopped without a failure on record, those that could not be started among
them. Only where there is a NUL in the name of a heartbeat its thread may be neither granted nor refused: then the start-up panics. -/
theorem startUp_waits_or_leaves_nothing_running (daemon : Daemon) (hfresh : Fresh s.world) :
    (∃ config t, daemon.startUp s = .ok (.ok (.waiting config)) t ∧ Waiting config t.world) ∨
      (∀ signals, ∃ code t, daemon.run signals s = .ok (some code) t ∧ World.LeftAlone s.world t.world) ∨
      ∃ config, daemon.config = .ok config ∧ (∃ h ∈ config.heartbeat, '\x00' ∈ h.name.toList) ∧
        ∃ message t, daemon.startUp s = .error (.panic message) t := by
  rcases startUp_ends daemon hfresh with ⟨outcome, t, ht, ⟨config, rfl⟩ | hleft⟩ | hpanics
  · exact .inl ⟨config, t, ht, (startUp_waiting hfresh ht).1⟩
  · cases outcome with
    | error fault =>
      right; left
      intro signals
      rw [run, Act.bind_ok ht]
      exact ⟨_, _, rfl, hleft.congr rfl rfl rfl⟩
    | ok stance =>
      cases stance with
      | waiting config => exact .inl ⟨config, t, ht, (startUp_waiting hfresh ht).1⟩
      | finished code =>
        right; left
        intro signals
        rw [run, Act.bind_ok ht]
        exact ⟨_, _, rfl, hleft⟩
  · exact .inr (.inr hpanics)

/-! ## A rehearsal -/

namespace Rehearsal

/-- A daemon with two heartbeats. -/
def pair : Daemon where
  options := {}
  tree := .ofFile "supervisor.toml" "[[heartbeat]]
name = \"first\"
[[heartbeat]]
name = \"second\"
".toUTF8
  environment := []

/-- The second heartbeat will be refused its thread. -/
def pairStage : Stage World :=
  ⟨{ threads := ⟨[none, some "no threads left"], [true], []⟩ }, []⟩

/-- The exit code of a run and what was done to threads. -/
def ending : EStateM.Result Interruption (Stage World) (Option Int32) → Option Int32 × List ThreadDeed
  | .ok code t => (code, t.world.threads.deeds)
  | .error _ t => (none, t.world.threads.deeds)

/-- `startUp_waits_or_leaves_nothing_running` where the second heartbeat is refused its thread: the process ends with a failure, the
worker of the first one has been signalled and joined, and both are stopped. -/
theorem startUp_waits_or_leaves_nothing_running_rehearsal :
    ∃ t, pair.run [] pairStage = .ok (some 1) t ∧ World.LeftAlone pairStage.world t.world ∧
      t.world.threads.deeds = [.spawned "heartbeat-first", .signalled "heartbeat-first", .joined "heartbeat-first"] ∧
      (t.world.pacemaker 0).Resting ∧ (t.world.pacemaker 1).Resting := by
  have hrun : ending (pair.run [] pairStage) =
      (some 1, [.spawned "heartbeat-first", .signalled "heartbeat-first", .joined "heartbeat-first"]) := by
    decide +kernel
  have hfresh : Fresh pairStage.world := ⟨fun _ => ⟨rfl, rfl⟩, rfl, rfl, rfl, rfl⟩
  rcases startUp_waits_or_leaves_nothing_running pair hfresh with ⟨config, t, hwaits, -⟩ | hends | ⟨_, _, _, message, t, hpanics⟩
  · rw [run, Act.bind_ok hwaits] at hrun
    cases (Prod.mk.inj hrun).1
  · obtain ⟨code, t, ht, hleft⟩ := hends []
    rw [ht] at hrun
    obtain ⟨hcode, hdeeds⟩ := Prod.mk.inj hrun
    obtain rfl := Option.some.inj hcode
    have hresting := hleft.resting (by decide)
    exact ⟨t, ht, hleft, hdeeds, hresting 0, hresting 1⟩
  · rw [run, Act.bind_error hpanics] at hrun
    cases (Prod.mk.inj hrun).1

end Rehearsal

end Daemon

end Supervision

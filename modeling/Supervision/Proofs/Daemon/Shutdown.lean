import Supervision.Proofs.Daemon.Waiting
import Supervision.Proofs.SignalHook
import Mathlib.Data.List.Nodup

/-!
# The end of a daemon

What the signals to a waiting daemon come to. The first one finds the exit hook armed: every heartbeat is stopped, in the reverse
of their order in the configuration (`Waiting.receive_first`). No later one finds it armed; each of them only hands its own exit
code over (`receive_unarmed`). `Daemon.await` ends with the first code that is handed over.
-/

namespace Supervision

namespace Daemon

variable {config : SupervisorConfig} {s : Stage World}

/-- The exit codes that signals to a waiting daemon hand over, in their order. -/
def exitCodes (config : SupervisorConfig) : List TerminationSignal → List Int32
  | [] => []
  | _ :: rest =>
    (if config.shutdown.exitProcess then [config.shutdown.exitCode] else []) ++ rest.map (·.defaultExitCode)

/-- What is told when every heartbeat is stopped. -/
def stopAllEvents (config : SupervisorConfig) : List Event :=
  .batchStarted .stop config.heartbeat.length :: config.heartbeat.reverse.flatMap (fun h => stopEvents h.name) ++
    [.batchSucceeded .stop config.heartbeat.length]

/-- What is told on a first signal until every heartbeat is stopped. -/
def passEvents (config : SupervisorConfig) (signal : TerminationSignal) : List Event :=
  [.signalHandled signal, .stoppingOnExit 1, .batchStarted .stop 1] ++ stopAllEvents config ++ [.batchSucceeded .stop 1]

/-- What is told behind that. -/
def verdict (config : SupervisorConfig) : Event :=
  if config.shutdown.exitProcess then .exitAfterHook config.shutdown.exitCode else .keepsRunning

namespace World

/-- The world with the exit hook consumed and its flag taken back. -/
def disarmed (w : World) : World :=
  { w with
    arming := { w.arming with action := none }
    registration := { w.registration with installed := false } }

/-- The world once every heartbeat has been stopped on exit. -/
def shutDown (config : SupervisorConfig) (w : World) : World :=
  w.disarmed.halted config (List.range config.heartbeat.length).reverse

end World

/-- The heartbeats by their numbers are those of the configuration. -/
theorem map_heartbeat (config : SupervisorConfig) :
    (List.range config.heartbeat.length).map (heartbeat config) =
      config.heartbeat.map fun h => ⟨h.name, h.intervalMs⟩ := by
  apply List.ext_getElem
  · simp
  · intro k hk hk'
    have hlength : k < config.heartbeat.length := by simpa using hk
    simp [heartbeat, List.getD_eq_getElem?_getD, hlength]

/-! ## The first signal -/

/-- What is handed over behind the exit action, and what is told. -/
theorem conclude_apply (config : SupervisorConfig) (s : Stage World) (hcodes : s.world.codes = []) :
    (listener config).conclude s =
      .ok () ⟨{ s.world with codes := if config.shutdown.exitProcess then [config.shutdown.exitCode] else [] },
        s.journal ++ [verdict config]⟩ := by
  rw [SignalListener.conclude, show (listener config).shutdown = config.shutdown from rfl, verdict]
  by_cases hexit : config.shutdown.exitProcess = true
  · rw [if_pos hexit, if_pos hexit, if_pos hexit, Act.bind_ok (Act.log_apply _ _)]
    simp [listener, World.handOver, hcodes]
  · rw [if_neg hexit, if_neg hexit, if_neg hexit, Act.log_apply, ← hcodes]

section First

variable {w : World} (hw : Waiting config w) (hjoins : ∀ returned ∈ w.threads.joinOutcomes, returned = true)

include hw hjoins

namespace Waiting

/-- A stop of the manager halts every heartbeat, in the reverse of their order. -/
theorem stop_manager (journal : List Event) :
    (manager config).request .stop ⟨w.disarmed, journal⟩ =
      .ok (.ok ()) ⟨w.shutDown config, journal ++ stopAllEvents config⟩ := by
  have hmembers : ((manager config).seat.get w.disarmed).members = List.range config.heartbeat.length := hw.components
  have hround : Batch.attempt .stop ((List.range config.heartbeat.length).reverse.map (manager config).component)
      ⟨w.disarmed, journal ++ [.batchStarted .stop config.heartbeat.length]⟩ = _ :=
    stopAll_apply (fun k hk => hw.beating k (List.mem_range.1 (List.mem_reverse.1 hk)))
      (List.nodup_reverse.2 List.nodup_range) hjoins
  have hevents : (List.range config.heartbeat.length).reverse.flatMap (fun k => stopEvents (heartbeat config k).name) =
      config.heartbeat.reverse.flatMap fun h => stopEvents h.name := by
    have hmap := congrArg (fun hs : List Heartbeat => hs.reverse.flatMap fun h => stopEvents h.name) (map_heartbeat config)
    simpa [← List.map_reverse, List.flatMap_map] using hmap
  rw [Manager.request_apply, hmembers, Batch.run_ok (by simpa [Batch.order, ← List.map_reverse, Stage.tell] using hround)]
  simp [Stage.tell, stopAllEvents, World.shutDown, hevents]

/-- The exit action sends one stop to the manager of the heartbeats. -/
theorem exitAction_apply (journal : List Event) :
    (coordinator config).exitAction ⟨{ w with arming := { w.arming with action := none } }, journal⟩ =
      .ok () ⟨w.shutDown config,
        journal ++ [.stoppingOnExit 1, .batchStarted .stop 1] ++ stopAllEvents config ++ [.batchSucceeded .stop 1]⟩ := by
  have hmembers : ((coordinator config).manager.seat.get w.disarmed).members = [()] := hw.registered
  have hmanager : (manager config).toLifecycle.request .stop
      ⟨w.disarmed, journal ++ [.stoppingOnExit 1] ++ [.batchStarted .stop 1]⟩ = _ := hw.stop_manager hjoins _
  have hround : Batch.attempt .stop (Batch.order .stop [(manager config).toLifecycle])
      (Stage.tell ⟨w.disarmed, journal ++ [.stoppingOnExit 1]⟩ [.batchStarted .stop 1]) = _ :=
    Batch.attempt_cons hmanager
  have hsize : (coordinator config).manager.size ⟨w.disarmed, journal⟩ = .ok 1 ⟨w.disarmed, journal⟩ := by
    simp [Manager.size, Registry.size, Act.map_apply, hmembers]
  have hmark : (coordinator config).mark false ⟨{ w with arming := { w.arming with action := none } }, journal⟩ =
      .ok () ⟨w.disarmed, journal⟩ := rfl
  have hstop : (coordinator config).manager.request .stop ⟨w.disarmed, journal ++ [.stoppingOnExit 1]⟩ =
      .ok (.ok ()) ⟨w.shutDown config,
        journal ++ [.stoppingOnExit 1, .batchStarted .stop 1] ++ stopAllEvents config ++ [.batchSucceeded .stop 1]⟩ := by
    rw [Manager.request_apply, hmembers]
    refine (Batch.run_ok hround).trans ?_
    simp [Stage.tell]
  rw [Coordinator.exitAction, Act.bind_ok hmark, Coordinator.runExitAction, Act.bind_ok hsize,
    Act.bind_ok (Act.log_apply _ _), Act.bind_ok hstop]
  rfl

/-- The first signal finds the hook armed: its action has run to the end before anything is handed over. -/
theorem handle_first (signal : TerminationSignal) (journal : List Event) :
    (listener config).handle signal ⟨w, journal⟩ =
      (listener config).conclude ⟨w.shutDown config, journal ++ passEvents config signal⟩ := by
  have harmed : ((listener config).hook.seat.get w).action = some () := by
    rw [show (listener config).hook.seat.get w = w.arming from rfl, hw.arming]
  have haction := hw.exitAction_apply hjoins (journal ++ [.signalHandled signal])
  rw [SignalListener.handle_armed (s := ⟨w, journal⟩) harmed haction]
  simp [passEvents]

/-- The first signal shuts everything down, and only then a code may be handed over. -/
theorem receive_first (signal : TerminationSignal) (journal : List Event) :
    (listener config).receive signal ⟨w, journal⟩ =
      (listener config).conclude ⟨w.shutDown config, journal ++ passEvents config signal⟩ := by
  have hactive : ((listener config).hook.seat.get w).listening = .active := by
    rw [show (listener config).hook.seat.get w = w.arming from rfl, hw.arming]
  have hconclude := conclude_apply config ⟨w.shutDown config, journal ++ passEvents config signal⟩ hw.codes
  rw [hconclude]
  exact SignalListener.receive_handled hactive ((hw.handle_first hjoins signal journal).trans hconclude)

end Waiting

end First

/-! ## The signals after it -/

/-- A signal that finds the exit hook not armed hands its own code over, and nothing else happens. -/
theorem receive_unarmed (config : SupervisorConfig) (signal : TerminationSignal) (hs : s.world.arming = ⟨none, .active⟩) :
    (listener config).receive signal s =
      .ok () ⟨{ s.world with codes := s.world.codes ++ [signal.defaultExitCode] },
        s.journal ++ [.signalUnhandled signal signal.defaultExitCode]⟩ := by
  have hseat : (listener config).hook.seat.get s.world = ⟨none, .active⟩ := hs
  refine SignalListener.receive_handled (by rw [hseat]) ?_
  rw [SignalListener.handle_unarmed World.lawful_armingPart (by rw [hseat])]
  rfl

/-- Signals that find the exit hook not armed hand their codes over, one after the other. -/
theorem receive_all_unarmed (config : SupervisorConfig) (signals : List TerminationSignal)
    (hs : s.world.arming = ⟨none, .active⟩) :
    forM signals (listener config).receive s =
      .ok () ⟨{ s.world with codes := s.world.codes ++ signals.map (·.defaultExitCode) },
        s.journal ++ signals.map fun signal => .signalUnhandled signal signal.defaultExitCode⟩ := by
  induction signals generalizing s with
  | nil => simp
  | cons signal signals ih =>
    rw [List.forM_cons, Act.bind_ok (receive_unarmed config signal hs), ih (by exact hs)]
    simp

/-! ## The end of the process -/

/-- The daemon answers to a signal with the first code that was handed over. -/
theorem receive_apply {signal : TerminationSignal} {t : Stage World} (h : (listener config).receive signal s = .ok () t) :
    ∃ journal, receive config signal s = .ok t.world.codes.head? ⟨t.world, journal⟩ := by
  rw [receive, Act.bind_ok h, Act.bind_ok (Act.world_apply t)]
  cases t.world.codes with
  | nil => exact ⟨_, rfl⟩
  | cons code codes => exact ⟨_, rfl⟩

/-- A waiting daemon ends with the first code that the signals hand over, if they hand one over. -/
theorem Waiting.await_eq {w : World} (hw : Waiting config w) (hjoins : ∀ returned ∈ w.threads.joinOutcomes, returned = true)
    (first : TerminationSignal) (rest : List TerminationSignal) (journal : List Event) :
    ∃ journal', await config (first :: rest) ⟨w, journal⟩ = .ok (exitCodes config (first :: rest)).head?
      ⟨{ w.shutDown config with codes := (exitCodes config (first :: rest)).take 1 }, journal'⟩ := by
  have hreceive := (hw.receive_first hjoins first journal).trans (conclude_apply config _ hw.codes)
  obtain ⟨j, hj⟩ := receive_apply hreceive
  rw [await, Act.bind_ok hj, exitCodes]
  by_cases hexit : config.shutdown.exitProcess = true
  · rw [if_pos hexit]
    exact ⟨j, rfl⟩
  · rw [if_neg hexit]
    cases rest with
    | nil => exact ⟨j, rfl⟩
    | cons second rest =>
      have harming : (w.shutDown config).arming = ⟨none, .active⟩ := by
        simp [World.shutDown, World.halted, World.disarmed, hw.arming]
      obtain ⟨j', hj'⟩ := receive_apply (receive_unarmed config second
        (s := ⟨{ w.shutDown config with codes := [] }, j⟩) harming)
      refine ⟨j', ?_⟩
      simp only [List.head?_nil, await]
      rw [Act.bind_ok hj']
      rfl

/-- The exit codes of a valid configuration are those that a process can end with. -/
theorem exitCodes_in_range (hvalid : config.validate = .ok ()) (signals : List TerminationSignal) :
    ∀ code ∈ exitCodes config signals, 0 ≤ code ∧ code ≤ 255 := by
  have hcode : 0 ≤ config.shutdown.exitCode ∧ config.shutdown.exitCode ≤ 255 := by
    rw [SupervisorConfig.validate] at hvalid
    by_cases hviolated : config.shutdown.exitCode < 0 ∨ 255 < config.shutdown.exitCode
    · rw [SupervisorConfig.violation?, if_pos hviolated] at hvalid
      cases hvalid
    · rw [not_or] at hviolated
      exact ⟨Int32.not_lt.1 hviolated.1, Int32.not_lt.1 hviolated.2⟩
  cases signals with
  | nil => exact fun code h => nomatch h
  | cons first rest =>
    intro code h
    rcases List.mem_append.1 h with h | h
    · by_cases hexit : config.shutdown.exitProcess = true
      · rw [if_pos hexit, List.mem_singleton] at h
        exact h ▸ hcode
      · rw [if_neg hexit] at h
        nomatch h
    · obtain ⟨signal, -, rfl⟩ := List.mem_map.1 h
      cases signal <;> decide

/-- What shutting down does to the threads: every worker is signalled and joined, in the reverse of the order of the
configuration. -/
theorem shutDown_deeds (config : SupervisorConfig) (w : World) :
    (w.shutDown config).threads.deeds = w.threads.deeds ++
      config.heartbeat.reverse.flatMap fun h => ThreadDeed.ended (Heartbeat.mk h.name h.intervalMs).threadName := by
  have hmap := congrArg (fun hs : List Heartbeat => hs.reverse.flatMap fun h => ThreadDeed.ended h.threadName)
    (map_heartbeat config)
  simp only [World.shutDown, World.halted, World.disarmed]
  simpa [← List.map_reverse, List.flatMap_map] using hmap

/-- A daemon that shuts down has no heartbeat that is not stopped, and no worker. -/
theorem Waiting.shutDown_resting {w : World} (hw : Waiting config w) (k : Nat) :
    ((w.shutDown config).pacemaker k).Resting := by
  by_cases hk : k < config.heartbeat.length
  · simpa [World.shutDown, World.halted, World.disarmed, hk] using Pacemaker.resting_halted _
  · simpa [World.shutDown, World.halted, World.disarmed, hk] using hw.resting k (Nat.not_lt.1 hk)

/-- Signals one after the other to a waiting daemon. -/
theorem Waiting.receive_all {w : World} (hw : Waiting config w) (hjoins : ∀ returned ∈ w.threads.joinOutcomes, returned = true)
    (first : TerminationSignal) (rest : List TerminationSignal) (journal : List Event) :
    forM (first :: rest) (listener config).receive ⟨w, journal⟩ =
      .ok () ⟨{ w.shutDown config with codes := exitCodes config (first :: rest) },
        journal ++ passEvents config first ++
          verdict config :: rest.map fun signal => .signalUnhandled signal signal.defaultExitCode⟩ := by
  have hreceive := (hw.receive_first hjoins first journal).trans (conclude_apply config _ hw.codes)
  have harming : (w.shutDown config).arming = ⟨none, .active⟩ := by
    simp [World.shutDown, World.halted, World.disarmed, hw.arming]
  rw [List.forM_cons, Act.bind_ok hreceive, receive_all_unarmed config rest harming]
  simp [exitCodes]

/-- What a signal comes to that shuts a daemon down, between two stages. -/
structure ShutDown (config : SupervisorConfig) (signal : TerminationSignal) (s t : Stage World) : Prop where
  /-- The manager of the heartbeats is sent a stop, with the exit hook consumed and its flag taken back. -/
  stop : ∃ u v, u.world = s.world.disarmed ∧ (manager config).request .stop u = .ok (.ok ()) v ∧ v.world = t.world
  /-- There is no other batch than that stop and the one of the coordinator around it. -/
  told : t.journal = s.journal ++ passEvents config signal
  ended : t.world.threads.deeds = s.world.threads.deeds ++
    config.heartbeat.reverse.flatMap fun h => ThreadDeed.ended (Heartbeat.mk h.name h.intervalMs).threadName
  resting : ∀ k, (t.world.pacemaker k).Resting
  silent : t.world.codes = []

/-- Whatever a daemon was called with and whatever the operating system answered until it waits: if the workers return when they
are joined, the first signal sends one stop to the manager of the heartbeats, which signals and joins every worker in the reverse of
the order of the configuration and leaves every heartbeat stopped, with no exit code handed over yet. Only then the configured exit code is
handed over, if the process is to exit. Every later signal hands over its own code and does nothing else, and the process ends
with the first code that was handed over, which is an exit status. -/
theorem stops_everything_before_it_exits {daemon : Daemon} {host : ThreadHost} {outcomes : List (Option SupervisorError)}
    {journal : List Event}
    (hstart : daemon.startUp ⟨{ threads := host, listenerOutcomes := outcomes }, journal⟩ = .ok (.ok (.waiting config)) s)
    (hjoins : ∀ returned ∈ host.joinOutcomes, returned = true) (first : TerminationSignal) (rest : List TerminationSignal) :
    ∃ t : Stage World, ShutDown config first s t ∧
      (listener config).receive first s = (listener config).conclude t ∧
      forM (first :: rest) (listener config).receive s =
        .ok () ⟨{ t.world with codes := exitCodes config (first :: rest) },
          t.journal ++ verdict config :: rest.map fun signal => .signalUnhandled signal signal.defaultExitCode⟩ ∧
      (∃ journal', daemon.run (first :: rest) ⟨{ threads := host, listenerOutcomes := outcomes }, journal⟩ =
        .ok (exitCodes config (first :: rest)).head?
          ⟨{ t.world with codes := (exitCodes config (first :: rest)).take 1 }, journal'⟩) ∧
      ∀ code ∈ exitCodes config (first :: rest), 0 ≤ code ∧ code ≤ 255 := by
  obtain ⟨hw, hhost⟩ := startUp_waiting ⟨fun _ => ⟨rfl, rfl⟩, rfl, rfl, rfl, rfl⟩ hstart
  rw [← hhost] at hjoins
  obtain ⟨journal', hawait⟩ := hw.await_eq hjoins first rest s.journal
  have hrun : daemon.run (first :: rest) ⟨{ threads := host, listenerOutcomes := outcomes }, journal⟩ =
      await config (first :: rest) s := by
    rw [run, Act.bind_ok hstart]
  refine ⟨⟨s.world.shutDown config, s.journal ++ passEvents config first⟩, ?_, hw.receive_first hjoins first s.journal,
    hw.receive_all hjoins first rest s.journal, ⟨journal', hrun.trans hawait⟩, exitCodes_in_range hw.valid _⟩
  exact {
    stop := ⟨_, _, rfl, hw.stop_manager hjoins s.journal, rfl⟩
    told := rfl
    ended := shutDown_deeds config s.world
    resting := hw.shutDown_resting
    silent := hw.codes }

namespace Rehearsal

/-- A daemon with two heartbeats whose process outlives the first signal. -/
def steadfast : Daemon where
  options := {}
  tree := .ofFile "supervisor.toml" "[shutdown]
exit_process = false
[[heartbeat]]
name = \"first\"
[[heartbeat]]
name = \"second\"
interval_ms = 20
".toUTF8
  environment := []

/-- What that daemon is configured to do. -/
def steadfastConfig : SupervisorConfig where
  shutdown := ⟨false, 0⟩
  heartbeat := [⟨"first", 1000⟩, ⟨"second", 20⟩]

/-- Where a start-up leads to, if it is to a daemon that waits with a configuration. -/
def waits (config : SupervisorConfig) : EStateM.Result Interruption (Stage World) (Except Fault Stance) → Bool
  | .ok (.ok (.waiting config')) _ => decide (config' = config)
  | _ => false

theorem of_waits {result : EStateM.Result Interruption (Stage World) (Except Fault Stance)}
    (h : waits config result = true) : ∃ s, result = .ok (.ok (.waiting config)) s := by
  unfold waits at h
  split at h
  · exact ⟨_, by rw [of_decide_eq_true h]⟩
  · cases h

/-- Two workers that return, and two signals: the second one ends the process. -/
theorem stops_everything_before_it_exits_rehearsal :
    ∃ s : Stage World,
      steadfast.startUp ⟨{ threads := ⟨[none], [true, true], []⟩, listenerOutcomes := [] }, []⟩ =
        .ok (.ok (.waiting steadfastConfig)) s ∧
      ∃ t : Stage World, ShutDown steadfastConfig .interrupt s t ∧
        (listener steadfastConfig).receive .interrupt s = (listener steadfastConfig).conclude t ∧
        forM [.interrupt, .terminate] (listener steadfastConfig).receive s =
          .ok () ⟨{ t.world with codes := [143] }, t.journal ++ [.keepsRunning, .signalUnhandled .terminate 143]⟩ ∧
        (∃ journal', steadfast.run [.interrupt, .terminate]
            ⟨{ threads := ⟨[none], [true, true], []⟩, listenerOutcomes := [] }, []⟩ =
          .ok (some 143) ⟨{ t.world with codes := [143] }, journal'⟩) ∧
        ∀ code ∈ [(143 : Int32)], 0 ≤ code ∧ code ≤ 255 := by
  have hwaits : waits steadfastConfig (steadfast.startUp
      ⟨{ threads := ⟨[none], [true, true], []⟩, listenerOutcomes := [] }, []⟩) = true := by decide +kernel
  obtain ⟨s, hs⟩ := of_waits hwaits
  exact ⟨s, hs, stops_everything_before_it_exits hs (by decide) .interrupt [.terminate]⟩

end Rehearsal

end Daemon

end Supervision

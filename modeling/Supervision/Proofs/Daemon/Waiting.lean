import Supervision.Proofs.Coordinator
import Supervision.Proofs.Daemon.Heartbeats

/-!
# The daemon when it waits

`Waiting` is the world in which a daemon waits for a signal: every heartbeat beats, all of them are registered in the order of the
configuration, and the exit hook is armed. Whatever the operating system answered on the way, a daemon whose start-up ends with
waiting is in such a world (`startUp_waiting`).
-/

namespace Supervision

namespace Daemon

variable {config : SupervisorConfig} {s t : Stage World}

/-- A world in which the daemon waits with a configuration. -/
structure Waiting (config : SupervisorConfig) (w : World) : Prop where
  valid : config.validate = .ok ()
  beating : ∀ k < config.heartbeat.length, (w.pacemaker k).Beating
  /-- There is no other heartbeat. -/
  resting : ∀ k, config.heartbeat.length ≤ k → (w.pacemaker k).Resting
  components : w.components.members = List.range config.heartbeat.length
  registered : w.registration.registry.members = [()]
  arming : w.arming = ⟨some (), .active⟩
  codes : w.codes = []

/-! ## Registrations -/

/-- Heartbeats are registered in the order of their numbers. -/
theorem enrol_apply (config : SupervisorConfig) (ks : List Nat) (s : Stage World) :
    ∃ journal, enrol config ks s = .ok () ⟨{ s.world with components := ks.foldl .insert s.world.components }, journal⟩ := by
  induction ks generalizing s with
  | nil => exact ⟨s.journal, rfl⟩
  | cons k ks ih =>
    obtain ⟨j, hj⟩ := (manager config).add_apply World.lawful_componentsPart k s
    have hadd : discard ((manager config).add k) s =
        .ok () ⟨{ s.world with components := s.world.components.insert k }, j⟩ := by
      rw [discard, Functor.mapConst]
      exact (Act.map_apply _ _ _).trans (by rw [hj]; rfl)
    obtain ⟨j', hj'⟩ := ih ⟨{ s.world with components := s.world.components.insert k }, j⟩
    exact ⟨j', by rw [enrol, Act.bind_ok hadd, hj']; rfl⟩

/-- The first installation of the exit hook is refused with the listener, or arms the hook. -/
theorem install_outcome (hfresh : s.world.arming = {}) :
    (∃ e, hook.install () s = .ok (.error e)
        ⟨{ s.world with listenerOutcomes := s.world.listenerOutcomes.tail }, s.journal ++ [.listenerRefused e]⟩) ∨
      hook.install () s = .ok (.ok ()) ⟨{ s.world with
        arming := ⟨some (), .active⟩
        listenerOutcomes := s.world.listenerOutcomes.tail }, s.journal ++ [.listenerRegistered]⟩ := by
  have habsent : (hook.seat.get s.world).listening = .absent := by
    rw [show hook.seat.get s.world = s.world.arming from rfl, hfresh]
  cases houtcome : s.world.listenerOutcomes.head?.join with
  | some e =>
    have hregister : hook.register s =
        .ok (.error e) ⟨{ s.world with listenerOutcomes := s.world.listenerOutcomes.tail }, s.journal⟩ := by
      simp [hook, World.registerListener, Act.bind_apply, houtcome]
    have hlistener : hook.ensureListener s =
        .ok (.error e) ⟨{ s.world with listenerOutcomes := s.world.listenerOutcomes.tail }, s.journal⟩ := by
      rw [SignalHook.ensureListener, Act.bind_ok (Part.read_apply _ _), if_pos habsent, Act.andThen_error hregister]
    left
    rw [SignalHook.install, Act.bind_ok hlistener]
    exact ⟨e, rfl⟩
  | none =>
    have hregister : hook.register s =
        .ok (.ok ()) ⟨{ s.world with listenerOutcomes := s.world.listenerOutcomes.tail }, s.journal⟩ := by
      simp [hook, World.registerListener, Act.bind_apply, houtcome]
    have hlistener : hook.ensureListener s = .ok (.ok ()) ⟨{ s.world with
        arming := ⟨none, .active⟩
        listenerOutcomes := s.world.listenerOutcomes.tail }, s.journal ++ [.listenerRegistered]⟩ := by
      rw [SignalHook.ensureListener, Act.bind_ok (Part.read_apply _ _), if_pos habsent, Act.andThen_ok hregister,
        Act.bind_ok (Act.log_apply _ _), Act.bind_ok (Part.modify_apply _ _ _)]
      simp [hook, World.armingPart, hfresh]
    right
    rw [SignalHook.install, Act.bind_ok hlistener]
    rfl

/-- When the coordinator takes the manager of the heartbeats over, the exit hook is refused or armed. -/
theorem add_outcome (config : SupervisorConfig) (hregistration : s.world.registration = {}) (harming : s.world.arming = {}) :
    (∃ e journal, (coordinator config).add () s = .ok (.error e) ⟨{ s.world with
        registration := ⟨Registry.empty.insert (), 1, false⟩
        listenerOutcomes := s.world.listenerOutcomes.tail }, journal⟩) ∨
      ∃ journal, (coordinator config).add () s = .ok (.ok true) ⟨{ s.world with
        registration := ⟨Registry.empty.insert (), 1, true⟩
        arming := ⟨some (), .active⟩
        listenerOutcomes := s.world.listenerOutcomes.tail }, journal⟩ := by
  obtain ⟨j, hj⟩ := (coordinator config).add_apply World.lawful_registrationPart () s
  rw [hj]
  generalize hbooked : (⟨_, j⟩ : Stage World) = booked
  have hworld : booked.world = { s.world with registration := ⟨Registry.empty.insert (), 1, false⟩ } := by
    rw [← hbooked]
    simp [coordinator, World.registrationPart, hregistration, Registry.contains, Registry.empty]
  have hseat : (coordinator config).seat.get booked.world = ⟨Registry.empty.insert (), 1, false⟩ := by
    rw [hworld]; rfl
  have hnew : ((coordinator config).seat.get s.world).registry.contains () = false := by
    rw [show (coordinator config).seat.get s.world = s.world.registration from rfl, hregistration]
    rfl
  have hcount : 0 < ((coordinator config).seat.get booked.world).count := by rw [hseat]; decide
  have hflag : ((coordinator config).seat.get booked.world).installed = false := by rw [hseat]
  obtain ⟨e, hinstall⟩ | hinstall := install_outcome (s := booked) (by rw [hworld]; exact harming)
  · left
    rw [Act.andThen_error (Coordinator.sync_install_refused hcount hflag hinstall), hworld]
    exact ⟨e, _, rfl⟩
  · right
    rw [Act.andThen_ok (Coordinator.sync_install hcount hflag hinstall), hnew, hworld]
    exact ⟨_, rfl⟩

/-- A coordinator that has taken the manager of the heartbeats over has the exit hook armed. -/
theorem add_armed {added : Bool} (hregistration : s.world.registration = {}) (harming : s.world.arming = {})
    (h : (coordinator config).add () s = .ok (.ok added) t) :
    t.world = { s.world with
      registration := ⟨Registry.empty.insert (), 1, true⟩
      arming := ⟨some (), .active⟩
      listenerOutcomes := s.world.listenerOutcomes.tail } := by
  obtain ⟨e, journal, hadd⟩ | ⟨journal, hadd⟩ := add_outcome config hregistration harming
  · cases hadd.symm.trans h
  · cases hadd.symm.trans h
    rfl

/-! ## Starting up -/

/-- A launch that ends with waiting has started every heartbeat and armed the exit hook. -/
theorem launch_waiting {config' : SupervisorConfig} (h : launch config s = .ok (.ok (.waiting config')) t)
    (hvalid : config.validate = .ok ()) (hcomponents : s.world.components.members = List.range config.heartbeat.length)
    (hpacemaker : ∀ k, (s.world.pacemaker k).Resting) (hregistration : s.world.registration = {})
    (harming : s.world.arming = {}) (hcodes : s.world.codes = []) :
    config' = config ∧ Waiting config t.world ∧ t.world.threads.joinOutcomes = s.world.threads.joinOutcomes := by
  rw [launch] at h
  obtain ⟨reply, u, hu, h⟩ := Act.of_bind_ok h
  cases reply with
  | error e =>
    obtain ⟨_, _, -, h⟩ := Act.of_bind_ok h
    obtain ⟨_, _, -, h⟩ := Act.of_bind_ok h
    cases h
  | ok =>
    rw [Manager.request_apply] at hu
    obtain ⟨v, hv, rfl⟩ := Batch.of_run_ok hu
    simp only [Act.ite_log_apply] at h
    obtain ⟨reply', x, hx, h⟩ := Act.of_bind_ok h
    have hmembers : (manager config).seat.get s.world = s.world.components := rfl
    rw [hmembers, hcomponents] at hv
    have hlaunched := startAll_launched (s := s.tell _) (fun k _ => hpacemaker k) List.nodup_range hv
    cases reply' with
    | error e =>
      obtain ⟨_, _, -, h⟩ := Act.of_bind_ok h
      obtain ⟨_, _, -, h⟩ := Act.of_bind_ok h
      cases h
    | ok added =>
      have hworld := add_armed (by simpa [hlaunched, World.launched]) (by simpa [hlaunched, World.launched]) hx
      simp only [Stage.tell_world, hlaunched] at hworld
      cases h
      refine ⟨rfl, ⟨hvalid, fun k hk => ?_, fun k hk => ?_, ?_, ?_, ?_, ?_⟩, ?_⟩
      all_goals simp only [hworld]
      · simpa [World.launched, hk] using Pacemaker.beating_launched _
      · simpa [World.launched, Nat.not_lt.2 hk] using hpacemaker k
      · exact hcomponents
      · rfl
      · exact hcodes
      · rfl

/-- A world in which nothing was registered or started yet. -/
structure Fresh (w : World) : Prop where
  resting : ∀ k, (w.pacemaker k).Resting
  components : w.components = .empty
  registration : w.registration = {}
  arming : w.arming = {}
  codes : w.codes = []

/-- To set the log up changes nothing but the log. -/
theorem setUpLog_fresh {options : Options} {filter : Option String} (hfresh : Fresh s.world)
    (h : setUpLog options config filter s = .ok (.ok ()) t) :
    Fresh t.world ∧ t.world.threads = s.world.threads := by
  rw [setUpLog] at h
  generalize LogPlan.make options config.logging filter = plan at h
  obtain ⟨complaints, _ | logPlan⟩ := plan
  · cases h
  · cases h
    exact ⟨⟨hfresh.resting, hfresh.components, hfresh.registration, hfresh.arming, hfresh.codes⟩, rfl⟩

/-- The heartbeats of a valid configuration are registered before the launch. -/
theorem assemble_waiting {options : Options} {config' : SupervisorConfig}
    (h : assemble options config s = .ok (.ok (.waiting config')) t) (hvalid : config.validate = .ok ())
    (hfresh : Fresh s.world) :
    config' = config ∧ Waiting config t.world ∧ t.world.threads.joinOutcomes = s.world.threads.joinOutcomes := by
  obtain ⟨j, hj⟩ := enrol_apply config (List.range config.heartbeat.length) s
  rw [assemble, Act.bind_ok hj] at h
  obtain ⟨empty, u, hu, h⟩ := Act.of_bind_ok h
  cases hu
  simp only [Act.ite_log_apply] at h
  by_cases hdry : options.dryRun = true
  · rw [if_pos hdry] at h
    cases h
  · rw [if_neg hdry] at h
    have hmembers : ((List.range config.heartbeat.length).foldl .insert s.world.components).members =
        List.range config.heartbeat.length := by
      rw [hfresh.components]
      exact Registry.members_foldl_insert List.nodup_range
    have hlaunch := launch_waiting h hvalid hmembers hfresh.resting hfresh.registration hfresh.arming hfresh.codes
    exact hlaunch

/-- Only a valid configuration comes to be launched. -/
theorem supervise_waiting {options : Options} {config' : SupervisorConfig}
    (h : supervise options config s = .ok (.ok (.waiting config')) t) (hfresh : Fresh s.world) :
    config' = config ∧ Waiting config t.world ∧ t.world.threads.joinOutcomes = s.world.threads.joinOutcomes := by
  rw [supervise, Act.bind_ok (Act.log_apply _ _), Act.bind_ok (Act.log_apply _ _)] at h
  cases hvalid : config.validate with
  | error e =>
    rw [hvalid] at h
    cases h
  | ok =>
    simp only [hvalid] at h
    by_cases honly : options.validateConfig = true
    · rw [if_pos honly] at h
      cases h
    · rw [if_neg honly] at h
      have hassemble := assemble_waiting h hvalid hfresh
      exact hassemble

/-- A start-up that ends with waiting leaves a world in which the daemon waits, whatever is to come of the threads and of the
listener; no thread was joined. -/
theorem startUp_waiting {daemon : Daemon} (hfresh : Fresh s.world) (h : daemon.startUp s = .ok (.ok (.waiting config)) t) :
    Waiting config t.world ∧ t.world.threads.joinOutcomes = s.world.threads.joinOutcomes := by
  rw [startUp] at h
  by_cases hprint : daemon.options.printConfig = true
  · rw [if_pos hprint, printConfig] at h
    cases htoml : ({} : SupervisorConfig).toToml with
    | error e => rw [htoml] at h; cases h
    | ok text => rw [htoml] at h; cases h
  · rw [if_neg hprint] at h
    cases hload : daemon.config with
    | error e => rw [hload] at h; cases h
    | ok loaded =>
      simp only [hload] at h
      obtain ⟨reply, u, hu, h⟩ := Act.of_bind_ok h
      cases reply with
      | error fault => cases h
      | ok =>
        obtain ⟨hfresh', hthreads⟩ := setUpLog_fresh hfresh hu
        obtain ⟨rfl, hwaiting, hjoins⟩ := supervise_waiting h hfresh'
        exact ⟨hwaiting, hjoins.trans (by rw [hthreads])⟩

end Daemon

end Supervision

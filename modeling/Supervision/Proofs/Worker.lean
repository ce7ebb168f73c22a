import Supervision.Proofs.Heartbeat
import Supervision.Proofs.Recording

/-!
# A heartbeat and its worker

Whether a heartbeat has a worker is one thing, the state of its machine another, and starts, stops and resets change both. Seen
from outside, between two requests, they agree: `Heartbeat.Agrees` says so, and accounts for every worker. It is kept by
every request (`Heartbeat.Agrees.step`), because carrying one out does one of five things to the two (`Heartbeat.Effect`).

Two records are kept beside the world: what happens to the hooks, and how the calls for threads end.
-/

namespace Supervision

variable {σ σ' : Type}

/-! ## Calls for threads -/

/-- A call for a thread, and how it ended. -/
inductive ThreadCall where
  | spawned (outcome : Except Cause Unit)
  | signalled
  | joined (returned : Bool)
deriving DecidableEq

namespace ThreadCall

/-- Whether a thread began to run. -/
def begins : ThreadCall → Bool
  | spawned (.ok _) => true
  | spawned (.error _) => false
  | signalled => false
  | joined _ => false

/-- Whether a thread was waited for until its end. -/
def ends : ThreadCall → Bool
  | spawned _ => false
  | signalled => false
  | joined _ => true

/-- How a spawn ended. -/
def spawn? : ThreadCall → Option (Except Cause Unit)
  | spawned outcome => some outcome
  | signalled => none
  | joined _ => none

end ThreadCall

/-- How a call of the hook of a phase ended. -/
def HookDeed.outcome? (phase : Phase) : HookDeed → Option (Except Cause Unit)
  | called p outcome => if p = phase then some outcome else none
  | told _ => none

namespace Threads

/-- Threads with the calls for them on record. -/
def watched (threads : Threads σ) : Threads (List ThreadCall × σ) where
  spawn name := do
    let outcome ← Part.snd.focus (threads.spawn name)
    Part.fst.modify (· ++ [.spawned outcome])
    return outcome
  signal name := do
    Part.snd.focus (threads.signal name)
    Part.fst.modify (· ++ [.signalled])
  join name := do
    let returned ← Part.snd.focus (threads.join name)
    Part.fst.modify (· ++ [.joined returned])
    return returned

/-- Threads that do, seen through a view of the world, what other threads do. -/
structure Mirrors (view : σ' → σ) (outer : Threads σ') (inner : Threads σ) : Prop where
  spawn : ∀ name, Act.Mirrors view (outer.spawn name) (inner.spawn name)
  signal : ∀ name, Act.Mirrors view (outer.signal name) (inner.signal name)
  join : ∀ name, Act.Mirrors view (outer.join name) (inner.join name)

theorem watched_mirrors (threads : Threads σ) : threads.watched.Mirrors Prod.snd threads where
  spawn name := Act.mirrors_noted (threads.spawn name) fun outcome calls => calls ++ [ThreadCall.spawned outcome]
  signal name := Act.mirrors_noted (threads.signal name) fun _ calls => calls ++ [ThreadCall.signalled]
  join name := Act.mirrors_noted (threads.join name) fun returned calls => calls ++ [ThreadCall.joined returned]

end Threads

namespace Heartbeat

section Mirrors

variable {heartbeat : Heartbeat} {view : σ' → σ} {outerPulse : Part σ' Pulse} {innerPulse : Part σ Pulse}
  {outer : Threads σ'} {inner : Threads σ}

theorem start_mirrors (hpulse : Part.Shows view outerPulse innerPulse) (hthreads : Threads.Mirrors view outer inner) :
    Act.Mirrors view (heartbeat.start outerPulse outer) (heartbeat.start innerPulse inner) := by
  unfold start
  refine hpulse.read.bind fun pulse => ?_
  cases pulse.running with
  | true => exact .pure _
  | false =>
    refine (hthreads.spawn _).bind fun outcome => ?_
    cases outcome with
    | ok _ => exact (hpulse.modify _).bind fun _ => .pure _
    | error cause => exact .pure _

theorem joinWorker_mirrors (hpulse : Part.Shows view outerPulse innerPulse) (hthreads : Threads.Mirrors view outer inner) :
    Act.Mirrors view (heartbeat.joinWorker outerPulse outer) (heartbeat.joinWorker innerPulse inner) := by
  unfold joinWorker
  refine hpulse.read.bind fun pulse => ?_
  cases pulse.running with
  | false => exact .pure _
  | true =>
    refine (hpulse.modify _).bind fun _ => (hthreads.signal _).bind fun _ => (hthreads.join _).bind fun returned => ?_
    cases returned with
    | true => exact (Act.Mirrors.log _).bind fun _ => .pure _
    | false => exact .pure _

theorem hooks_mirrors (hpulse : Part.Shows view outerPulse innerPulse) (hthreads : Threads.Mirrors view outer inner) :
    Hooks.Mirrors view (heartbeat.hooks outerPulse outer) (heartbeat.hooks innerPulse inner) where
  name := rfl
  resettable := rfl
  invoke phase := by
    cases phase with
    | start => exact start_mirrors hpulse hthreads
    | stop => exact joinWorker_mirrors hpulse hthreads
    | reset => exact joinWorker_mirrors hpulse hthreads
  failed e := (Act.Mirrors.log _).bind fun _ => .pure _

end Mirrors

/-- Where a heartbeat lives. Its machine and its pulse have a place each, and a thread of its name can be spawned, signalled and
joined, well or ill, without a change of whether there is a worker. -/
structure Housed (heartbeat : Heartbeat) (seat : Part σ Machine) (pulse : Part σ Pulse) (threads : Threads σ) : Prop where
  lawful_seat : seat.Lawful
  lawful_pulse : pulse.Lawful
  apart : ∀ m w, pulse.get (seat.set m w) = pulse.get w
  spawn_returns : (threads.spawn heartbeat.threadName).Returns
  signal_returns : (threads.signal heartbeat.threadName).Returns
  join_returns : (threads.join heartbeat.threadName).Returns
  spawn_apart : (threads.spawn heartbeat.threadName).Leads fun w w' => (pulse.get w').running = (pulse.get w).running
  signal_apart : (threads.signal heartbeat.threadName).Leads fun w w' => (pulse.get w').running = (pulse.get w).running
  join_apart : (threads.join heartbeat.threadName).Leads fun w w' => (pulse.get w').running = (pulse.get w).running

/-- The hooks of a heartbeat with the calls for threads on record. -/
def watchedHooks (heartbeat : Heartbeat) (pulse : Part σ Pulse) (threads : Threads σ) : Hooks (List ThreadCall × σ) :=
  heartbeat.hooks (Part.snd.comp pulse) threads.watched

/-! ## What a hook does -/

variable {heartbeat : Heartbeat} {seat : Part σ Machine} {pulse : Part σ Pulse} {threads : Threads σ}

/-- A start without a worker asks for a thread, and there is a worker behind it if the thread was spawned. -/
theorem start_watched (h : heartbeat.Housed seat pulse threads) {w : σ} (hidle : (pulse.get w).running = false)
    (calls : List ThreadCall) (journal : List Event) :
    ∃ outcome w' journal', (heartbeat.watchedHooks pulse threads).invoke .start ⟨(calls, w), journal⟩ =
        .ok outcome ⟨(calls ++ [.spawned outcome], w'), journal'⟩ ∧
      (pulse.get w').running = outcome.isOk := by
  obtain ⟨outcome, u, hspawn⟩ := h.spawn_returns ⟨w, journal⟩
  have hapart := h.spawn_apart ⟨w, journal⟩
  rw [Act.leaves_of_ok hspawn] at hapart
  have hwatched : threads.watched.spawn heartbeat.threadName ⟨(calls, w), journal⟩ =
      .ok outcome ⟨(calls ++ [.spawned outcome], u.world), u.journal⟩ := Act.bind_ok (Part.focus_ok hspawn)
  cases outcome with
  | ok _ =>
    refine ⟨.ok (), _, _, start_spawned hidle hwatched, ?_⟩
    rw [h.lawful_pulse.get_set]
    rfl
  | error cause => exact ⟨.error cause, _, _, start_refused hidle hwatched, hapart.trans hidle⟩

/-- To signal and join the worker leaves none, be it that the worker has returned or panicked. -/
theorem join_watched (h : heartbeat.Housed seat pulse threads) {w : σ} (hrunning : (pulse.get w).running = true)
    (calls : List ThreadCall) (journal : List Event) :
    ∃ returned w' journal', (heartbeat.watchedHooks pulse threads).invoke .stop ⟨(calls, w), journal⟩ =
        .ok (if returned then .ok () else .error heartbeat.panicked) ⟨(calls ++ [.signalled, .joined returned], w'), journal'⟩ ∧
      (pulse.get w').running = false := by
  -- the worker is forgotten before it is signalled
  let w₀ := pulse.set { pulse.get w with running := false } w
  obtain ⟨_, t, hsignal⟩ := h.signal_returns ⟨w₀, journal⟩
  obtain ⟨returned, u, hjoin⟩ := h.join_returns t
  have hsignalled := h.signal_apart ⟨w₀, journal⟩
  have hjoined := h.join_apart t
  rw [Act.leaves_of_ok hsignal] at hsignalled
  rw [Act.leaves_of_ok hjoin] at hjoined
  have hidle : (pulse.get u.world).running = false := by rw [hjoined, hsignalled, h.lawful_pulse.get_set]
  have hwatched : threads.watched.signal heartbeat.threadName ⟨(calls, w₀), journal⟩ =
      .ok () ⟨(calls ++ [.signalled], t.world), t.journal⟩ := Act.bind_ok (Part.focus_ok hsignal)
  have hwatched' : threads.watched.join heartbeat.threadName ⟨(calls ++ [.signalled], t.world), t.journal⟩ =
      .ok returned ⟨(calls ++ [.signalled] ++ [.joined returned], u.world), u.journal⟩ := Act.bind_ok (Part.focus_ok hjoin)
  rw [List.append_assoc] at hwatched'
  cases returned with
  | true =>
    have hcall : heartbeat.joinWorker (Part.snd.comp pulse) threads.watched ⟨(calls, w), journal⟩ = _ :=
      joinWorker_joined hrunning hwatched hwatched'
    exact ⟨true, _, _, hcall, hidle⟩
  | false =>
    have hcall : heartbeat.joinWorker (Part.snd.comp pulse) threads.watched ⟨(calls, w), journal⟩ = _ :=
      joinWorker_panicked hrunning hwatched hwatched'
    exact ⟨false, _, _, hcall, hidle⟩

/-! ## What carrying a request out does -/

/-- What carrying a request out does to a heartbeat that has a worker or none: what happens to its hooks, the machine and whether
there is a worker behind it, and the calls for threads. -/
inductive Effect (heartbeat : Heartbeat) : Request → Bool → List HookDeed → Machine → Bool → List ThreadCall → Prop where
  | spawned : Effect heartbeat .start false [.called .start (.ok ())] ⟨.started, none⟩ true [.spawned (.ok ())]
  | refused (cause : Cause) (e : SupervisorError) :
      Effect heartbeat .start false [.called .start (.error cause), .told e] ⟨.failed, some cause⟩ false
        [.spawned (.error cause)]
  | returned : Effect heartbeat .stop true [.called .stop (.ok ())] ⟨.stopped, none⟩ false
      [.signalled, .joined true]
  | panicked (e : SupervisorError) :
      Effect heartbeat .stop true [.called .stop (.error heartbeat.panicked), .told e] ⟨.failed, some heartbeat.panicked⟩ false
        [.signalled, .joined false]
  | idle : Effect heartbeat .stop false [.called .stop (.ok ())] ⟨.stopped, none⟩ false []

/-- Carrying a request out has one of these effects, where a start finds no worker. -/
theorem exists_effect (h : heartbeat.Housed seat pulse threads) (r : Request) (state : State) (w : σ)
    (hr : r = .start → (pulse.get w).running = false) (calls : List ThreadCall) (journal : List Event) :
    ∃ deeds reply m more w' journal', Machine.Carried (heartbeat.watchedHooks pulse threads) r state ⟨(calls, w), journal⟩
        deeds reply m ⟨(calls ++ more, w'), journal'⟩ ∧
      heartbeat.Effect r (pulse.get w).running deeds m (pulse.get w').running more := by
  -- a failure is told, and stays the answer
  have htold : ∀ e s, (heartbeat.watchedHooks pulse threads).failed e s = .ok (.error e) (s.tell [.failureReported e]) :=
    fun _ _ => rfl
  cases r with
  | start =>
    have hidle := hr rfl
    obtain ⟨outcome, w', journal', hcall, hrunning⟩ := start_watched h hidle calls
      (journal ++ [.stepped heartbeat.name state .starting .start])
    rw [hidle]
    cases outcome with
    | ok _ =>
      have hcarried : Machine.Carried (heartbeat.watchedHooks pulse threads) .start state ⟨(calls, w), journal⟩ _ _ _ _ :=
        .done hcall
      refine ⟨_, _, _, _, w', _, hcarried, ?_⟩
      rw [show (pulse.get w').running = true from hrunning]
      exact .spawned
    | error cause =>
      refine ⟨_, _, _, _, w', _, .failed hcall (htold _ _), ?_⟩
      rw [show (pulse.get w').running = false from hrunning]
      exact .refused cause _
  | stop =>
    cases hrunning : (pulse.get w).running with
    | false =>
      have hcall : (heartbeat.watchedHooks pulse threads).invoke .stop
          ⟨(calls, w), journal ++ [.stepped heartbeat.name state .stopping .stop]⟩ = _ := joinWorker_idle hrunning
      have hcarried : Machine.Carried (heartbeat.watchedHooks pulse threads) .stop state ⟨(calls, w), journal⟩ _ _ _ _ :=
        .done hcall
      refine ⟨_, _, _, [], w, _, by rw [List.append_nil]; exact hcarried, ?_⟩
      rw [hrunning]
      exact .idle
    | true =>
      obtain ⟨returned, w', journal', hcall, hidle⟩ := join_watched h hrunning calls
        (journal ++ [.stepped heartbeat.name state .stopping .stop])
      cases returned with
      | true =>
        have hcarried : Machine.Carried (heartbeat.watchedHooks pulse threads) .stop state ⟨(calls, w), journal⟩ _ _ _ _ :=
          .done hcall
        refine ⟨_, _, _, _, w', _, hcarried, ?_⟩
        rw [hidle]
        exact .returned
      | false =>
        refine ⟨_, _, _, _, w', _, .failed hcall (htold _ _), ?_⟩
        rw [hidle]
        exact .panicked _

/-! ## Agreement -/

/-- The records of a heartbeat that has a worker or none. Every thread that began to run has come to its end, but for the worker if
there is one, and at no time was there a second one. Each was signalled right before it was joined. Every call of the start hook was a
spawn and ended as that did, so that none was turned down over a worker that was there already, and every reset went well. -/
structure Accounts (running : Bool) (deeds : List HookDeed) (calls : List ThreadCall) : Prop where
  workers : calls.countP ThreadCall.begins = calls.countP ThreadCall.ends + running.toNat
  single : ∀ before, before <+: calls → before.countP ThreadCall.ends ≤ before.countP ThreadCall.begins ∧
    before.countP ThreadCall.begins ≤ before.countP ThreadCall.ends + 1
  signals : ∀ before returned, before ++ [.joined returned] <+: calls → before.getLast? = some .signalled
  starts : deeds.filterMap (HookDeed.outcome? .start) = calls.filterMap ThreadCall.spawn?
  resets : ∀ outcome ∈ deeds.filterMap (HookDeed.outcome? .reset), outcome = .ok ()

/-- A heartbeat between two requests. Its machine is at rest, there is a worker exactly if it is started, and the failure on
record, if there is one, is that of the last call for a thread. -/
structure Agrees (heartbeat : Heartbeat) (m : Machine) (running : Bool) (deeds : List HookDeed) (calls : List ThreadCall) :
    Prop extends Accounts running deeds calls where
  sound : m.Sound
  running_iff : running = true ↔ m.state = .started
  failure : ∀ cause, m.failure = some cause → calls.getLast? = some (.spawned (.error cause)) ∨
    calls.getLast? = some (.joined false) ∧ cause = heartbeat.panicked

theorem agrees_fresh (heartbeat : Heartbeat) : heartbeat.Agrees {} false [] [] where
  workers := rfl
  single before hbefore := by
    obtain rfl := List.prefix_nil.1 hbefore
    exact ⟨Nat.le_refl _, Nat.zero_le _⟩
  signals before returned hbefore := by simp at hbefore
  starts := rfl
  resets := by simp
  sound := Machine.sound_default
  running_iff := by decide
  failure := by simp

variable {r : Request} {m : Machine} {running running' : Bool} {deeds more : List HookDeed} {calls further : List ThreadCall}

/-- A reset that goes well adds nothing to account for. -/
theorem Accounts.reset (h : Accounts running deeds calls) : Accounts running (deeds ++ [.called .reset (.ok ())]) calls where
  workers := h.workers
  single := h.single
  signals := h.signals
  starts := by
    rw [List.filterMap_append, h.starts]
    exact List.append_nil _
  resets outcome houtcome := by
    rw [List.filterMap_append, List.mem_append] at houtcome
    rcases houtcome with houtcome | houtcome
    · exact h.resets outcome houtcome
    · exact List.mem_singleton.1 houtcome

/-- What is true of all that led to a record, and of the record with one call more, is true of all that led to that. -/
theorem prefixes_concat {P : List ThreadCall → Prop} (h : ∀ before, before <+: calls → P before) {call : ThreadCall}
    (hcall : P (calls ++ [call])) : ∀ before, before <+: calls ++ [call] → P before := by
  intro before hbefore
  rcases List.prefix_concat_iff.1 hbefore with rfl | hbefore
  · exact hcall
  · exact h before hbefore

/-- If every join comes behind a signal, it does so with one call more that is no join, or comes behind a signal. -/
theorem signals_concat (h : ∀ before returned, before ++ [.joined returned] <+: calls → before.getLast? = some .signalled)
    {call : ThreadCall} (hcall : ∀ returned, call = .joined returned → calls.getLast? = some .signalled) :
    ∀ before returned, before ++ [.joined returned] <+: calls ++ [call] → before.getLast? = some .signalled := by
  intro before returned hbefore
  rcases List.prefix_concat_iff.1 hbefore with heq | hbefore
  · obtain ⟨rfl, hlast⟩ := List.append_inj' heq rfl
    exact hcall returned (List.singleton_inj.1 hlast).symm
  · exact h before returned hbefore

/-- Every effect is accounted for. -/
theorem Effect.accounts (he : heartbeat.Effect r running more m running' further) (h : Accounts running deeds calls) :
    Accounts running' (deeds ++ more) (calls ++ further) := by
  have hworkers := h.workers
  have hstarts := h.starts
  have htwo : ∀ last, calls ++ [.signalled, last] = calls ++ [.signalled] ++ [last] := by simp
  refine ⟨?_, ?_, ?_, ?_, ?_⟩
  · cases he <;> simp [ThreadCall.begins, ThreadCall.ends] at hworkers ⊢ <;> omega
  · cases he with
    | spawned | refused => exact prefixes_concat h.single (by simp [ThreadCall.begins, ThreadCall.ends] at hworkers ⊢; omega)
    | returned | panicked =>
      rw [htwo]
      refine prefixes_concat (prefixes_concat h.single ?_) ?_
      all_goals simp [ThreadCall.begins, ThreadCall.ends] at hworkers ⊢; omega
    | idle => simpa using h.single
  · cases he with
    | spawned | refused => exact signals_concat h.signals (by simp)
    | returned | panicked =>
      rw [htwo]
      exact signals_concat (signals_concat h.signals (by simp)) (by simp)
    | idle => simpa using h.signals
  · rw [List.filterMap_append, List.filterMap_append, hstarts]
    cases he <;> rfl
  · intro outcome houtcome
    rw [List.filterMap_append, List.mem_append] at houtcome
    rcases houtcome with houtcome | houtcome
    · exact h.resets outcome houtcome
    · cases he <;> cases houtcome

/-- Carrying a request out leaves a heartbeat that agrees with its records. -/
theorem Effect.agrees (he : heartbeat.Effect r running more m running' further) (h : Accounts running deeds calls) :
    heartbeat.Agrees m running' (deeds ++ more) (calls ++ further) where
  toAccounts := he.accounts h
  sound := by cases he <;> exact ⟨trivial, by simp⟩
  running_iff := by cases he <;> simp
  failure cause hcause := by
    cases he
    case refused => exact .inl (by rw [List.getLast?_concat, Option.some.inj hcause])
    case panicked => exact .inr ⟨by simp, (Option.some.inj hcause).symm⟩
    all_goals cases hcause

/-- Every request leaves a heartbeat that agrees with its records. -/
theorem Agrees.step (h : heartbeat.Housed seat pulse threads) {w : σ}
    (hs : heartbeat.Agrees m (pulse.get w).running deeds calls) (r : Request) (journal : List Event) :
    ∃ more reply m' further w' journal', Machine.Course (heartbeat.watchedHooks pulse threads) r m ⟨(calls, w), journal⟩
        more reply m' ⟨(calls ++ further, w'), journal'⟩ ∧
      heartbeat.Agrees m' (pulse.get w').running (deeds ++ more) (calls ++ further) := by
  have hidle : m.state ≠ .started → (pulse.get w).running = false := by
    intro hne
    cases hrunning : (pulse.get w).running with
    | false => rfl
    | true => exact absurd (hs.running_iff.1 hrunning) hne
  cases hedge : transition m.state r.trigger true with
  | none =>
    refine ⟨[], .error (Machine.undefined (heartbeat.watchedHooks pulse threads) m.state r.trigger), m, [], w, journal, ?_, ?_⟩
    · rw [List.append_nil]
      exact .refused hedge
    · rw [List.append_nil, List.append_nil]
      exact hs
  | some next =>
    obtain rfl := transition_passage hedge
    by_cases hfailed : m.state = .failed
    · -- there is no worker to join, so that the reset goes well
      have hnone := hidle (by rw [hfailed]; decide)
      obtain ⟨more, reply, m', further, w', journal', hcarried, heffect⟩ := exists_effect h r .failed w (fun _ => hnone) calls
        (journal ++ [.resetting heartbeat.name r])
      refine ⟨_, reply, m', further, w', journal', .afterReset hfailed rfl (joinWorker_idle hnone) hcarried, ?_⟩
      rw [← List.singleton_append, ← List.append_assoc]
      exact heffect.agrees hs.toAccounts.reset
    · have hnone : r = .start → (pulse.get w).running = false := by
        rintro rfl
        exact hidle fun hstarted => by rw [hstarted] at hedge; cases hedge
      obtain ⟨more, reply, m', further, w', journal', hcarried, heffect⟩ := exists_effect h r m.state w hnone calls journal
      exact ⟨more, reply, m', further, w', journal', .direct hfailed hedge hcarried, heffect.agrees hs.toAccounts⟩

/-! ## Runs -/

/-- A heartbeat as a component, with what happens to its hooks and with the calls for threads on record. -/
def watched (heartbeat : Heartbeat) (seat : Part σ Machine) (pulse : Part σ Pulse) (threads : Threads σ) :
    Lifecycle (List HookDeed × List ThreadCall × σ) :=
  Machine.component (Part.snd.comp (Part.snd.comp seat)) (heartbeat.watchedHooks pulse threads).recorded

/-- A request on record is a step. -/
theorem watched_request (h : heartbeat.Housed seat pulse threads) (r : Request) {w : σ}
    (hs : heartbeat.Agrees (seat.get w) (pulse.get w).running deeds calls) (journal : List Event) :
    ∃ reply more further, ∃ t : Stage σ, (heartbeat.watched seat pulse threads).request r ⟨(deeds, calls, w), journal⟩ =
        .ok reply ⟨(deeds ++ more, calls ++ further, t.world), t.journal⟩ ∧
      heartbeat.Agrees (seat.get t.world) (pulse.get t.world).running (deeds ++ more) (calls ++ further) := by
  obtain ⟨more, reply, m', further, w', journal', hcourse, hagrees⟩ := hs.step h r journal
  refine ⟨reply, more, further, ⟨seat.set m' w', journal'⟩, (hcourse.recorded deeds).component_eq rfl hs.sound, ?_⟩
  rw [h.lawful_seat.get_set, h.apart]
  exact hagrees

/-- Requests on record, one after the other. -/
theorem watched_requests (h : heartbeat.Housed seat pulse threads) (requests : List Request) {w : σ}
    (hs : heartbeat.Agrees (seat.get w) (pulse.get w).running deeds calls) (journal : List Event) :
    ∃ replies more further, ∃ t : Stage σ,
      requests.mapM (heartbeat.watched seat pulse threads).request ⟨(deeds, calls, w), journal⟩ =
        .ok replies ⟨(deeds ++ more, calls ++ further, t.world), t.journal⟩ ∧
      heartbeat.Agrees (seat.get t.world) (pulse.get t.world).running (deeds ++ more) (calls ++ further) := by
  induction requests generalizing w deeds calls journal with
  | nil => exact ⟨[], [], [], ⟨w, journal⟩, by rw [List.append_nil, List.append_nil]; rfl, by simpa using hs⟩
  | cons r requests ih =>
    obtain ⟨reply, more, further, t, hrequest, ht⟩ := watched_request h r hs journal
    obtain ⟨replies, more', further', u, hrequests, hu⟩ := ih ht t.journal
    rw [List.append_assoc, List.append_assoc] at hrequests hu
    refine ⟨reply :: replies, more ++ more', further ++ further', u, ?_, hu⟩
    rw [List.mapM_cons, Act.bind_ok hrequest, Act.bind_ok hrequests]
    rfl

/-- A heartbeat and its worker agree between any two requests, however each spawn and each join ends: it has a worker exactly if
it is started, the threads on record are accounted for, and it failed only over a thread that could not be spawned or a worker
that panicked. -/
theorem agrees_with_worker (h : heartbeat.Housed seat pulse threads) (requests : List Request) (s : Stage σ)
    (hfresh : seat.get s.world = {}) (hidle : (pulse.get s.world).running = false) :
    ∃ replies deeds calls t,
      Act.recording [] (Act.recording [] (requests.mapM (heartbeat.watched seat pulse threads).request)) s =
        .ok ((replies, deeds), calls) t ∧
      requests.mapM (Machine.component seat (heartbeat.hooks pulse threads)).request s = .ok replies t ∧
      heartbeat.Agrees (seat.get t.world) (pulse.get t.world).running deeds calls := by
  have hs : heartbeat.Agrees (seat.get s.world) (pulse.get s.world).running [] [] := by
    rw [hfresh, hidle]
    exact agrees_fresh heartbeat
  obtain ⟨replies, deeds, calls, t, hrequests, hagrees⟩ := watched_requests h requests hs s.journal
  have hwatched : Lifecycle.Mirrors Prod.snd
      (Machine.component (Part.snd.comp seat) (heartbeat.watchedHooks pulse threads))
      (Machine.component seat (heartbeat.hooks pulse threads)) :=
    Machine.component_mirrors (Part.shows_beside seat) (hooks_mirrors (Part.shows_beside pulse) threads.watched_mirrors)
  have hrecorded : Lifecycle.Mirrors Prod.snd (heartbeat.watched seat pulse threads)
      (Machine.component (Part.snd.comp seat) (heartbeat.watchedHooks pulse threads)) :=
    Machine.component_mirrors (Part.shows_beside _) (Hooks.recorded_mirrors _)
  have hdeeds : Act.recording [] (requests.mapM (heartbeat.watched seat pulse threads).request) ⟨([], s.world), s.journal⟩ =
      .ok (replies, deeds) ⟨(calls, t.world), t.journal⟩ := Act.recording_ok hrequests
  have hcalls := (Act.Mirrors.mapM hrecorded.request requests).of_recording hdeeds
  have hplain := (Act.Mirrors.mapM hwatched.request requests).of_recording (Act.recording_ok hcalls)
  exact ⟨replies, deeds, calls, t, Act.recording_ok hdeeds, hplain, hagrees⟩

/-! ## A rehearsal -/

/-- On paper, threads house every heartbeat whose name has no NUL, whatever outcomes are to come. -/
theorem housed_on_paper {host : Part σ ThreadHost} (hseat : seat.Lawful) (hpulse : pulse.Lawful) (hhost : host.Lawful)
    (hmachine : ∀ m w, pulse.get (seat.set m w) = pulse.get w) (hthreads : ∀ t w, pulse.get (host.set t w) = pulse.get w)
    (hname : '\x00' ∉ heartbeat.name.toList) : heartbeat.Housed seat pulse (ThreadHost.threads host) := by
  have hspawn := ThreadHost.spawn_apply hhost (ThreadHost.nulPosition?_eq_none.2 (mt nul_mem_threadName.1 hname))
  refine ⟨hseat, hpulse, hmachine, fun s => ?_, fun s => ⟨_, _, ThreadHost.signal_apply host s⟩,
    fun s => ⟨_, _, ThreadHost.join_apply host s⟩, fun s => ?_, fun s => ?_, fun s => ?_⟩
  · obtain ⟨outcome, t, h⟩ := hspawn s
    exact ⟨_, _, h⟩
  · obtain ⟨outcome, t, h⟩ := hspawn s
    rw [show (ThreadHost.threads host).spawn = ThreadHost.spawn host from rfl, Act.leaves_of_ok h]
    exact congrArg Pulse.running (hthreads t s.world)
  · rw [show (ThreadHost.threads host).signal = ThreadHost.signal host from rfl,
      Act.leaves_of_ok (ThreadHost.signal_apply host s)]
    exact congrArg Pulse.running (hthreads _ s.world)
  · rw [show (ThreadHost.threads host).join = ThreadHost.join host from rfl, Act.leaves_of_ok (ThreadHost.join_apply host s)]
    exact congrArg Pulse.running (hthreads _ s.world)

namespace Rehearsal

abbrev World := Machine × Pulse × ThreadHost

def pulsePart : Part World Pulse := Part.snd.comp Part.fst

def hostPart : Part World ThreadHost := Part.snd.comp Part.snd

def heart : Heartbeat := ⟨"pulse", 5⟩

/-- The second spawn will be refused, and the first worker will have panicked. -/
def stage : Stage World :=
  ⟨({}, {}, { spawnOutcomes := [none, some "no threads left"], joinOutcomes := [false] }), []⟩

def requests : List Request :=
  [.start, .stop, .start, .stop, .start, .start]

theorem housed : heart.Housed Part.fst pulsePart (ThreadHost.threads hostPart) :=
  housed_on_paper Part.lawful_fst (Part.lawful_snd.comp Part.lawful_fst) (Part.lawful_snd.comp Part.lawful_snd)
    (fun _ _ => rfl) (fun _ _ => rfl) (by decide)

/-- The calls for threads on record, with the machine that is left. -/
def outcome : EStateM.Result Interruption (Stage World) ((List (Reply Unit) × List HookDeed) × List ThreadCall) →
    List ThreadCall × Machine
  | .ok (_, calls) t => (calls, t.world.1)
  | .error _ t => ([], t.world.1)

end Rehearsal

/-- `agrees_with_worker` in the rehearsal: the first worker panics, the second one cannot be spawned, and the third one is there at
the end. -/
theorem agrees_with_worker_rehearsal :
    ∃ replies deeds calls t,
      Rehearsal.requests.mapM (Machine.component Part.fst
        (Rehearsal.heart.hooks Rehearsal.pulsePart (ThreadHost.threads Rehearsal.hostPart))).request Rehearsal.stage =
          .ok replies t ∧
      Rehearsal.heart.Agrees t.world.1 t.world.2.1.running deeds calls ∧
      calls = [.spawned (.ok ()), .signalled, .joined false, .spawned (.error ⟨"no threads left", []⟩), .spawned (.ok ())] ∧
      t.world.1 = ⟨.started, none⟩ := by
  obtain ⟨replies, deeds, calls, t, hrecorded, hplain, hagrees⟩ :=
    agrees_with_worker Rehearsal.housed Rehearsal.requests Rehearsal.stage rfl rfl
  have houtcome : Rehearsal.outcome (Act.recording [] (Act.recording [] (Rehearsal.requests.mapM
      (Rehearsal.heart.watched Part.fst Rehearsal.pulsePart (ThreadHost.threads Rehearsal.hostPart)).request))
        Rehearsal.stage) =
      ([.spawned (.ok ()), .signalled, .joined false, .spawned (.error ⟨"no threads left", []⟩), .spawned (.ok ())],
        ⟨.started, none⟩) := by
    decide +kernel
  rw [hrecorded] at houtcome
  obtain ⟨hcalls, hmachine⟩ := Prod.mk.inj houtcome
  exact ⟨replies, deeds, calls, t, hplain, hagrees, hcalls, hmachine⟩

end Heartbeat

end Supervision

import Supervision.Proofs.HookHistory
import Supervision.Proofs.Recording

/-!
# The protocol of a component's hooks

What a component can rely on, whatever is asked of its machine and however its hooks end: no start without a stop or a reset
before it, no stop without a start or a reset, no reset without a failure, and every failure told of once, directly behind it.
`Proper` judges a deed by the deeds before it. Each course of a request keeps a history of proper deeds (`Course.orderly`), and
a whole history of proper deeds obeys the protocol (`Orderly.inProtocol`).
-/

namespace Supervision

variable {σ : Type}

namespace HookDeed

/-- A failed call of a hook. -/
def Fails : HookDeed → Prop
  | called _ (.error _) => True
  | called _ (.ok _) | told _ => False

/-- Where every call ended well, no deed is a failed call. -/
theorem not_fails {deeds : List HookDeed} (h : ∀ x ∈ deeds.filterMap call, x.2 = .ok ()) : ∀ deed ∈ deeds, ¬ deed.Fails := by
  intro deed hdeed hfails
  match deed, hfails with
  | called phase (.error cause), _ => exact nomatch h (phase, .error cause) (List.mem_filterMap.2 ⟨_, hdeed, rfl⟩)

/-- A hook that may be called behind the last call. -/
def Due (last : Option (Phase × Except Cause Unit)) : Phase → Prop
  | .start => last = none ∨ last = some (.stop, .ok ()) ∨ last = some (.reset, .ok ())
  | .stop => last = some (.start, .ok ()) ∨ last = some (.reset, .ok ())
  | .reset => ∃ phase cause, last = some (phase, .error cause)

/-- The failure that was met last has been told of: no failed call ends the history. -/
def AllTold (history : List HookDeed) : Prop :=
  ∀ deed ∈ history.getLast?, ¬ deed.Fails

/-- A deed is proper behind a history: a call is due, no failure waits to be told of, and hooks that cannot reset are called only
if none of them failed; what is told is the failed call directly before. -/
def Proper (hooks : Hooks σ) (history : List HookDeed) : HookDeed → Prop
  | called phase _ =>
    Due (lastCall history) phase ∧ AllTold history ∧
      (hooks.resettable = false → phase ≠ .reset ∧ ∀ deed ∈ history, ¬ deed.Fails)
  | told e =>
    ∃ phase cause, history.getLast? = some (.called phase (.error cause)) ∧ e = .hook hooks.name phase cause

/-- Each of several deeds is proper behind those before it. -/
def ProperFrom (hooks : Hooks σ) : List HookDeed → List HookDeed → Prop
  | _, [] => True
  | history, deed :: rest => Proper hooks history deed ∧ ProperFrom hooks (history ++ [deed]) rest

variable {hooks : Hooks σ}

/-- Deeds are proper in their order exactly if each of them is, wherever they are cut. -/
theorem properFrom_iff (history deeds : List HookDeed) :
    ProperFrom hooks history deeds ↔
      ∀ before deed after, deeds = before ++ deed :: after → Proper hooks (history ++ before) deed := by
  induction deeds generalizing history with
  | nil => simp [ProperFrom]
  | cons first rest ih =>
    rw [ProperFrom, ih]
    constructor
    · rintro ⟨hfirst, hrest⟩ before deed after hcut
      rcases List.cons_eq_append_iff.1 hcut with ⟨rfl, hhead⟩ | ⟨before', rfl, hrest'⟩
      · obtain ⟨rfl, -⟩ := List.cons.inj hhead
        rwa [List.append_nil]
      · have h := hrest before' deed after hrest'
        rwa [List.append_assoc, List.singleton_append] at h
    · intro hall
      refine ⟨?_, fun before deed after hcut => ?_⟩
      · have h := hall [] first rest rfl
        rwa [List.append_nil] at h
      · rw [List.append_assoc, List.singleton_append]
        exact hall (first :: before) deed after (by rw [hcut, List.cons_append])

theorem properFrom_append (history deeds more : List HookDeed) :
    ProperFrom hooks history (deeds ++ more) ↔ ProperFrom hooks history deeds ∧ ProperFrom hooks (history ++ deeds) more := by
  induction deeds generalizing history with
  | nil => simp [ProperFrom]
  | cons deed rest ih => simp [ProperFrom, ih, and_assoc]

theorem allTold_append_told (history : List HookDeed) (e : SupervisorError) : AllTold (history ++ [.told e]) := by
  simp [AllTold, Fails]

theorem allTold_append_ok (history : List HookDeed) (phase : Phase) : AllTold (history ++ [.called phase (.ok ())]) := by
  simp [AllTold, Fails]

theorem lastCall_append_called (history : List HookDeed) (phase : Phase) (outcome : Except Cause Unit) :
    lastCall (history ++ [.called phase outcome]) = some (phase, outcome) := by
  rw [lastCall_append]
  rfl

end HookDeed

namespace Machine

open HookDeed

variable {hooks : Hooks σ} {r : Request}

/-- A machine with a history of proper deeds: the last call tells the machine, every failure was told of, and hooks that cannot
reset are at an end with their first failure. -/
structure Orderly (hooks : Hooks σ) (m : Machine) (history : List HookDeed) : Prop where
  reflects : Reflects m (lastCall history)
  proper : ProperFrom hooks [] history
  allTold : AllTold history
  spent : hooks.resettable = false → m.state ≠ .failed → ∀ deed ∈ history, ¬ deed.Fails

theorem orderly_fresh (hooks : Hooks σ) : Orderly hooks {} [] where
  reflects := .fresh
  proper := trivial
  allTold := by simp [AllTold]
  spent := by simp

/-- From a machine that has not failed, the hook of a request that has an edge is due. -/
theorem Reflects.due {m : Machine} {last : Option (Phase × Except Cause Unit)} (h : Reflects m last)
    {resettable : Bool} (hne : m.state ≠ .failed)
    (hedge : transition m.state r.trigger resettable = some r.passage) : Due last r.phase := by
  cases h with
  | fresh =>
    cases r with
    | start => exact .inl rfl
    | stop => cases hedge
  | done done =>
    cases done <;> cases r
    · cases hedge
    · exact .inl rfl
    · exact .inr (.inl rfl)
    · cases hedge
  | failed _ _ => exact absurd rfl hne

/-- A request that is carried out where its hook is due does what is proper. -/
theorem Carried.proper {state : State} {s t : Stage σ} {deeds history : List HookDeed} {reply : Reply Unit} {m' : Machine}
    (h : Carried hooks r state s deeds reply m' t) (hdue : Due (lastCall history) r.phase) (htold : AllTold history)
    (hspent : hooks.resettable = false → ∀ deed ∈ history, ¬ deed.Fails) : ProperFrom hooks history deeds := by
  have hcall : ∀ outcome, Proper hooks history (.called r.phase outcome) :=
    fun _ => ⟨hdue, htold, fun hr => ⟨by cases r <;> exact nofun, hspent hr⟩⟩
  cases h with
  | done _ => exact ⟨hcall _, trivial⟩
  | failed _ _ => exact ⟨hcall _, ⟨r.phase, _, List.getLast?_concat, rfl⟩, trivial⟩

/-- Behind a request that was carried out every failure has been told of. -/
theorem Carried.allTold {state : State} {s t : Stage σ} {deeds : List HookDeed} {reply : Reply Unit} {m' : Machine}
    (h : Carried hooks r state s deeds reply m' t) (history : List HookDeed) : AllTold (history ++ deeds) := by
  cases h with
  | done _ => exact allTold_append_ok history _
  | failed _ _ =>
    rw [← List.singleton_append, ← List.append_assoc]
    exact allTold_append_told _ _

/-- Where a request leaves a machine that has not failed, none of its hooks has. -/
theorem Carried.fails {state : State} {s t : Stage σ} {deeds : List HookDeed} {reply : Reply Unit} {m' : Machine}
    (h : Carried hooks r state s deeds reply m' t) (hm : m'.state ≠ .failed) : ∀ deed ∈ deeds, ¬ deed.Fails := by
  cases h with
  | done _ => simp [Fails]
  | failed _ _ => exact absurd rfl hm

/-- Every course leaves a machine with a history of proper deeds. -/
theorem Course.orderly {m m' : Machine} {s t : Stage σ} {deeds history : List HookDeed} {reply : Reply Unit}
    (h : Course hooks r m s deeds reply m' t) (hm : Orderly hooks m history) : Orderly hooks m' (history ++ deeds) := by
  have hreflects := h.reflects hm.reflects
  cases h with
  | refused _ => rwa [List.append_nil]
  | direct hne hedge hend =>
    have hproper := hend.proper (hm.reflects.due hne hedge) hm.allTold fun hr => hm.spent hr hne
    refine ⟨hreflects, (properFrom_append _ _ _).2 ⟨hm.proper, hproper⟩, hend.allTold history, fun hr hm' deed hdeed => ?_⟩
    rcases List.mem_append.1 hdeed with hdeed | hdeed
    · exact hm.spent hr hne deed hdeed
    · exact hend.fails hm' deed hdeed
  | resetFailed hstate hreset _ _ =>
    have hdue : Due (lastCall history) .reset := hm.reflects.toldBy.failed.1 hstate
    refine ⟨hreflects, (properFrom_append _ _ _).2 ⟨hm.proper, ?_⟩, ?_, fun hr => ?_⟩
    · exact ⟨⟨hdue, hm.allTold, fun hr => by simp [hr] at hreset⟩, ⟨.reset, _, List.getLast?_concat, rfl⟩, trivial⟩
    · rw [← List.singleton_append, ← List.append_assoc]
      exact allTold_append_told _ _
    · simp [hr] at hreset
  | afterReset hstate hreset _ hend =>
    have hdue : Due (lastCall history) .reset := hm.reflects.toldBy.failed.1 hstate
    have hgoesOn : Due (lastCall (history ++ [.called .reset (.ok ())])) r.phase := by
      rw [lastCall_append_called]
      cases r <;> simp [Due, Request.phase]
    have hproper := hend.proper hgoesOn (allTold_append_ok _ _) fun hr => by simp [hr] at hreset
    rw [← List.singleton_append, ← List.append_assoc] at hreflects ⊢
    refine ⟨hreflects, ?_, hend.allTold _, fun hr => ?_⟩
    · rw [List.append_assoc, properFrom_append, properFrom_append]
      exact ⟨hm.proper, ⟨⟨hdue, hm.allTold, fun hr => by simp [hr] at hreset⟩, trivial⟩, hproper⟩
    · simp [hr] at hreset

/-- The protocol of the hooks of a component, in the history of what happened to them. -/
structure InProtocol (hooks : Hooks σ) (history : List HookDeed) : Prop where
  /-- A start is the first call of all, or comes directly behind a stop or a reset that went well. -/
  start : ∀ before outcome after, history = before ++ .called .start outcome :: after →
    lastCall before = none ∨ lastCall before = some (.stop, .ok ()) ∨ lastCall before = some (.reset, .ok ())
  /-- A stop comes directly behind a start or a reset that went well. -/
  stop : ∀ before outcome after, history = before ++ .called .stop outcome :: after →
    lastCall before = some (.start, .ok ()) ∨ lastCall before = some (.reset, .ok ())
  /-- A reset comes directly behind a failed call. -/
  reset : ∀ before outcome after, history = before ++ .called .reset outcome :: after →
    ∃ phase cause, lastCall before = some (phase, .error cause)
  /-- A failed call is told of directly behind it. -/
  told : ∀ before phase cause after, history = before ++ .called phase (.error cause) :: after →
    ∃ rest, after = .told (.hook hooks.name phase cause) :: rest
  /-- What is told is the failed call directly before. -/
  telling : ∀ before e after, history = before ++ .told e :: after →
    ∃ earlier phase cause, before = earlier ++ [.called phase (.error cause)] ∧ e = .hook hooks.name phase cause
  /-- Hooks that cannot reset are never reset. -/
  unreset : hooks.resettable = false → ∀ outcome, .called .reset outcome ∉ history
  /-- Hooks that cannot reset are not called again behind a failure. -/
  spent : hooks.resettable = false → ∀ before phase cause after, history = before ++ .called phase (.error cause) :: after →
    ∀ phase' outcome, .called phase' outcome ∉ after

/-- A history of proper deeds obeys the protocol. -/
theorem Orderly.inProtocol {m : Machine} {history : List HookDeed} (h : Orderly hooks m history) :
    InProtocol hooks history := by
  have hproper : ∀ before deed after, history = before ++ deed :: after → Proper hooks before deed := by
    intro before deed after hcut
    have hcut' := (properFrom_iff [] history).1 h.proper before deed after hcut
    rwa [List.nil_append] at hcut'
  refine ⟨?_, ?_, ?_, ?_, ?_, ?_, ?_⟩
  · exact fun before outcome after hcut => (hproper before _ after hcut).1
  · exact fun before outcome after hcut => (hproper before _ after hcut).1
  · exact fun before outcome after hcut => (hproper before _ after hcut).1
  · intro before phase cause after hcut
    cases after with
    | nil => exact absurd trivial (h.allTold (.called phase (.error cause)) (by simp [hcut]))
    | cons next rest =>
      have hnext := hproper (before ++ [.called phase (.error cause)]) next rest (by simp [hcut])
      cases next with
      | called phase' outcome => exact absurd trivial (hnext.2.1 (.called phase (.error cause)) (by simp))
      | told e =>
        obtain ⟨phase', cause', hlast, rfl⟩ := hnext
        rw [List.getLast?_concat] at hlast
        cases hlast
        exact ⟨rest, rfl⟩
  · intro before e after hcut
    obtain ⟨phase, cause, hlast, rfl⟩ := hproper before _ after hcut
    obtain ⟨earlier, rfl⟩ := List.getLast?_eq_some_iff.1 hlast
    exact ⟨earlier, phase, cause, rfl, rfl⟩
  · intro hr outcome hmem
    obtain ⟨before, after, hcut⟩ := List.append_of_mem hmem
    exact ((hproper before _ after hcut).2.2 hr).1 rfl
  · intro hr before phase cause after hcut phase' outcome hmem
    obtain ⟨between, rest, rfl⟩ := List.append_of_mem hmem
    have hcall := hproper (before ++ .called phase (.error cause) :: between) (.called phase' outcome) rest (by simp [hcut])
    exact (hcall.2.2 hr).2 (.called phase (.error cause)) (by simp) trivial

/-! ## Turns -/

/-- A request with its answer and what happened to the hooks while it was carried out. -/
structure Turn where
  request : Request
  reply : Reply Unit
  deeds : List HookDeed

/-- In a turn, the only call behind a reset that went well is that of the requested hook. -/
def Turn.GoesOn (turn : Turn) : Prop :=
  ∀ before after, turn.deeds = before ++ .called .reset (.ok ()) :: after →
    ∃ outcome, after.filterMap call = [(turn.request.phase, outcome)]

/-- Carries a request out with hooks that are recorded. -/
def turn (seat : Part σ Machine) (hooks : Hooks σ) (r : Request) : Act σ Turn := do
  let (reply, deeds) ← Act.recording [] ((component (Part.snd.comp seat) hooks.recorded).request r)
  return ⟨r, reply, deeds⟩

variable {seat : Part σ Machine}

/-- A turn is the course of its request. -/
theorem Course.turn_eq {m m' : Machine} {s t : Stage σ} {deeds : List HookDeed} {reply : Reply Unit}
    (h : Course hooks r m s deeds reply m' t) (hseat : seat.get s.world = m) (hm : m.Sound) :
    turn seat hooks r s = .ok ⟨r, reply, deeds⟩ ⟨seat.set m' t.world, t.journal⟩ := by
  have hrun : (component (Part.snd.comp seat) hooks.recorded).request r ⟨([], s.world), s.journal⟩ = _ :=
    (h.recorded []).component_eq hseat hm
  rw [turn, Act.bind_ok (Act.recording_ok hrun)]
  rfl

theorem Carried.unreset {state : State} {s t : Stage σ} {deeds : List HookDeed} {reply : Reply Unit} {m' : Machine}
    (h : Carried hooks r state s deeds reply m' t) : .called .reset (.ok ()) ∉ deeds := by
  cases h with
  | done _ => cases r <;> simp [Request.phase]
  | failed _ _ => simp

/-- In every course the request goes on behind a reset that went well. -/
theorem Course.goesOn {m m' : Machine} {s t : Stage σ} {deeds : List HookDeed} {reply : Reply Unit}
    (h : Course hooks r m s deeds reply m' t) : (Turn.mk r reply deeds).GoesOn := by
  intro before after hcut
  have hmem : HookDeed.called .reset (.ok ()) ∈ deeds := by
    rw [show deeds = _ from hcut]
    simp
  cases h with
  | refused _ => simp at hmem
  | direct _ _ hend => exact absurd hmem hend.unreset
  | resetFailed _ _ _ _ => simp at hmem
  | afterReset _ _ _ hend =>
    rcases List.cons_eq_append_iff.1 hcut with ⟨rfl, hhead⟩ | ⟨before', rfl, hrest⟩
    · obtain ⟨-, rfl⟩ := List.cons.inj hhead
      exact hend.calls
    · exact absurd (hrest ▸ by simp) hend.unreset

/-- Requests one after another, from a machine with a history of proper deeds. -/
theorem turns_orderly (hseat : seat.Lawful) (hreturn : hooks.Return) (requests : List Request) (s : Stage σ)
    (history : List HookDeed) (hs : Orderly hooks (seat.get s.world) history) :
    ∃ turns t, requests.mapM (turn seat hooks) s = .ok turns t ∧
      requests.mapM (component seat hooks).request s = .ok (turns.map Turn.reply) t ∧
      turns.map Turn.request = requests ∧ (∀ x ∈ turns, x.GoesOn) ∧
      Orderly hooks (seat.get t.world) (history ++ turns.flatMap Turn.deeds) := by
  induction requests generalizing s history with
  | nil => exact ⟨[], s, rfl, rfl, rfl, by simp, by simpa using hs⟩
  | cons r requests ih =>
    obtain ⟨deeds, reply, m', t, hcourse⟩ := exists_course hooks hreturn r (seat.get s.world) s
    have hsound := hs.reflects.sound
    have ht : Orderly hooks (seat.get (seat.set m' t.world)) (history ++ deeds) := by
      rw [hseat.get_set]
      exact hcourse.orderly hs
    obtain ⟨turns, u, hturns, hplain, hrequests, hgo, hu⟩ := ih ⟨seat.set m' t.world, t.journal⟩ (history ++ deeds) ht
    refine ⟨⟨r, reply, deeds⟩ :: turns, u, ?_, ?_, by rw [List.map_cons, hrequests], ?_, ?_⟩
    · rw [List.mapM_cons, Act.bind_ok (hcourse.turn_eq rfl hsound), Act.bind_ok hturns]
      rfl
    · rw [List.mapM_cons, Act.bind_ok (hcourse.component_eq rfl hsound), Act.bind_ok hplain]
      rfl
    · exact List.forall_mem_cons.2 ⟨hcourse.goesOn, hgo⟩
    · rw [List.flatMap_cons, ← List.append_assoc]
      exact hu

/-- The hooks of a component are called in their protocol: over any requests to a fresh machine whose hooks return, resettable or
not, however each call of them ends and whatever they answer to the message of a failure. The history is what happened to the
hooks in one request after another, and behind a reset that went well the same request calls the hook that it asks for. -/
theorem hooks_called_in_protocol (hseat : seat.Lawful) (hreturn : hooks.Return) (requests : List Request) (s : Stage σ)
    (hfresh : seat.get s.world = {}) :
    ∃ turns t, requests.mapM (turn seat hooks) s = .ok turns t ∧
      requests.mapM (component seat hooks).request s = .ok (turns.map Turn.reply) t ∧
      turns.map Turn.request = requests ∧ (∀ x ∈ turns, x.GoesOn) ∧ InProtocol hooks (turns.flatMap Turn.deeds) := by
  have hs : Orderly hooks (seat.get s.world) [] := hfresh ▸ orderly_fresh hooks
  obtain ⟨turns, t, hturns, hplain, hrequests, hgo, ht⟩ := turns_orderly hseat hreturn requests s [] hs
  exact ⟨turns, t, hturns, hplain, hrequests, hgo, ht.inProtocol⟩

namespace Rehearsal

/-- The calls of hooks in turns. -/
def callsOf {α β : Type} : EStateM.Result α β (List Turn) → List (Phase × Except Cause Unit)
  | .ok turns _ => (turns.flatMap Turn.deeds).filterMap call
  | .error _ _ => []

end Rehearsal

/-- `hooks_called_in_protocol` in the rehearsal: a stop that fails, a reset that fails, a reset that goes well and the start behind
it. The last request is refused. -/
theorem hooks_called_in_protocol_rehearsal :
    ∃ turns t, [.start, .stop, .stop, .start, .start].mapM (turn Part.fst Rehearsal.scripted) Rehearsal.stage = .ok turns t ∧
      (∀ x ∈ turns, x.GoesOn) ∧ InProtocol Rehearsal.scripted (turns.flatMap Turn.deeds) ∧
      (turns.flatMap Turn.deeds).filterMap call =
        [(.start, .ok ()), (.stop, .error ⟨"stuck", []⟩), (.reset, .error ⟨"broken", []⟩), (.reset, .ok ()), (.start, .ok ())] := by
  obtain ⟨turns, t, hturns, -, -, hgo, hprotocol⟩ := hooks_called_in_protocol Part.lawful_fst Rehearsal.scripted_return
    [.start, .stop, .stop, .start, .start] Rehearsal.stage rfl
  have hcalls : Rehearsal.callsOf
      ([.start, .stop, .stop, .start, .start].mapM (turn Part.fst Rehearsal.scripted) Rehearsal.stage) =
        [(.start, .ok ()), (.stop, .error ⟨"stuck", []⟩), (.reset, .error ⟨"broken", []⟩), (.reset, .ok ()), (.start, .ok ())] := by
    decide +kernel
  rw [hturns] at hcalls
  exact ⟨turns, t, hturns, hgo, hprotocol, hcalls⟩

end Machine

end Supervision

import Supervision.Proofs.Returns

/-!
# What a batch logs

The error of a batch names the components that failed and leaves their failures to the log. `Tree.failures_logged` says that the
log has them: of a request to a tree of managers, every failed call within it is complained of once, at once when it has returned,
and every manager that failed sums up once, behind all that is told of its components. What a manager logs is read off one call
(`Return.Closes`) and, by induction on the walk through the tree, off all of them; the error of the tree lists as many failures
as the log tells (`Walk.count`).
-/

namespace Supervision

variable {σ κ α : Type}

mutual

/-- How many failures an error lists, those in the errors of nested batches included. -/
def SupervisorError.entries : SupervisorError → Nat
  | .batch _ failures => SupervisorError.entriesOf failures
  | _ => 0

/-- How many failures there are on a list, and in the errors on it. -/
def SupervisorError.entriesOf : List (String × SupervisorError) → Nat
  | [] => 0
  | (_, e) :: failures => 1 + e.entries + SupervisorError.entriesOf failures

end

theorem SupervisorError.entriesOf_append (failures failures' : List (String × SupervisorError)) :
    entriesOf (failures ++ failures') = entriesOf failures + entriesOf failures' := by
  induction failures with
  | nil => simp [entriesOf]
  | cons f failures ih =>
    rw [List.cons_append, entriesOf, entriesOf, ih]
    omega

namespace Event

theorem errors_append (events events' : List Event) : errors (events ++ events') = errors events ++ errors events' :=
  List.filter_append ..

end Event

namespace Batch

/-- The failures that an answer lists, if it is the error of a batch. -/
def listed : Reply Unit → List (String × SupervisorError)
  | .error (.batch _ failures) => failures
  | _ => []

theorem errors_complaint (operation : Request) (name : String) (reply : Reply Unit) :
    Event.errors (complaint operation name reply) = complaint operation name reply := by
  cases reply <;> rfl

theorem listed_verdict (operation : Request) (failures : List (String × SupervisorError)) :
    listed (verdict operation failures) = failures := by
  cases failures <;> rfl

theorem entriesOf_failed (operation : Request) (name : String) (reply : Reply Unit) :
    SupervisorError.entriesOf (failed name reply) =
      (complaint operation name reply).length + SupervisorError.entriesOf (listed reply) := by
  cases reply with
  | ok _ => rfl
  | error e => cases e <;> rfl

end Batch

namespace Return

variable {leaf : α → String} {operation : Request} {w : σ} {r : Return σ κ α} {asked : List (Return σ κ α)}
  {journal : List Event}

/-- Whether a call ended with an error. -/
def hasFailed (r : Return σ κ α) : Bool :=
  match r.reply with
  | .ok _ => false
  | .error _ => true

/-- Whether a call went to a manager. -/
def toManager (r : Return σ κ α) : Bool :=
  match r.whom with
  | .leaf _ => false
  | .manager _ _ => true

/-- The error with which a manager closes a batch that has failed. It names how many components it has asked. -/
def summary (w : σ) (r : Return σ κ α) : List Event :=
  match r.whom, r.reply with
  | .manager seat _, .error e => [.batchFailed e (seat.get w).members.length]
  | _, _ => []

/-- The failures that a leaf brings along, which no manager has seen: those that its answer lists. -/
def brought (r : Return σ κ α) : List (String × SupervisorError) :=
  match r.whom with
  | .leaf _ => Batch.listed r.reply
  | .manager _ _ => []

theorem errors_entry : Event.errors (r.entry leaf operation) = r.entry leaf operation := by
  rw [entry]
  split
  · rfl
  · exact Batch.errors_complaint ..

/-- A call that goes well is no matter for complaints. -/
theorem silent_of_ok (h : r.reply = .ok ()) : r.summary w ++ r.entry leaf operation = [] := by
  obtain ⟨place, whom, reply, journal⟩ := r
  cases h
  cases place <;> cases whom <;> rfl

theorem length_summary : (r.summary w).length = if r.toManager && r.hasFailed then 1 else 0 := by
  obtain ⟨place, whom, reply, journal⟩ := r
  cases whom <;> cases reply <;> rfl

theorem length_failures (leaf : α → String) (returns : List (Return σ κ α)) :
    (returns.flatMap (failures leaf)).length = returns.countP hasFailed := by
  induction returns with
  | nil => rfl
  | cons r returns ih =>
    obtain ⟨place, whom, reply, journal⟩ := r
    rw [List.flatMap_cons, List.length_append, ih, List.countP_cons, Nat.add_comm]
    cases reply <;> rfl

/-- The text with which a manager sums up that its batch has failed: how many of its components failed, and how many there are. -/
def summaryText [DecidableEq κ] (operation : Request) (w : σ) (returns : List (Return σ κ α)) (r : Return σ κ α) :
    List String :=
  match r.whom, r.reply with
  | .manager seat _, .error _ =>
    let failed := (beneath r.place returns).countP hasFailed
    let attempted := (seat.get w).members.length
    [s!"{failed} components failed to {operation.text} (of {attempted} attempted)"]
  | _, _ => []

/-- The text with which the manager of a component complains of a call to it. -/
def entryText (leaf : α → String) (operation : Request) (r : Return σ κ α) : List String :=
  match r.place, r.reply with
  | _ :: _, .error e => [s!"Error during {operation.text} of component '{r.whom.name leaf}': {e.message}"]
  | _, _ => []

theorem message_entry : (r.entry leaf operation).map Event.message = r.entryText leaf operation := by
  obtain ⟨place, whom, reply, journal⟩ := r
  cases place <;> cases reply <;> rfl

namespace Closes

/-- Of what a component tells behind its own components, only the summary is an error. -/
theorem errors_eq (h : r.Closes leaf operation w asked journal) :
    Event.errors r.journal = Event.errors journal ++ r.summary w := by
  rw [Closes] at h
  rw [summary]
  cases hwhom : r.whom with
  | leaf a =>
    rw [hwhom] at h
    obtain ⟨told, hjournal, htold⟩ := h
    rw [hjournal, Event.errors_append, htold]
  | manager seat children =>
    rw [hwhom] at h
    obtain ⟨hreply, hjournal⟩ := h
    rw [hjournal, hreply, Event.errors_append]
    cases asked.flatMap (failures leaf) <;> rfl

theorem prefix_journal (h : r.Closes leaf operation w asked journal) : journal <+: r.journal := by
  rw [Closes] at h
  split at h
  · obtain ⟨told, hjournal, -⟩ := h
    exact ⟨told, hjournal.symm⟩
  · exact ⟨_, h.2.symm⟩

/-- An answer lists the failures of the components that were asked, and what a leaf brings along. -/
theorem listed_eq (h : r.Closes leaf operation w asked journal)
    (hasked : asked.map (fun c => (c.place, c.whom)) = r.whom.asked operation w r.place) :
    Batch.listed r.reply = r.brought ++ asked.flatMap (failures leaf) := by
  rw [Closes] at h
  rw [brought]
  cases hwhom : r.whom with
  | leaf a =>
    rw [hwhom] at hasked
    rw [List.map_eq_nil_iff.1 hasked]
    exact (List.append_nil _).symm
  | manager seat children =>
    rw [hwhom] at h
    rw [h.1, Batch.listed_verdict]
    rfl

/-- A manager goes well if all components that it asks do. -/
theorem reply_ok (h : r.Closes leaf operation w asked journal) (hasked : ∀ c ∈ asked, c.reply = .ok ())
    (hleaf : ∀ a, r.whom = .leaf a → r.reply = .ok ()) : r.reply = .ok () := by
  rw [Closes] at h
  cases hwhom : r.whom with
  | leaf a => exact hleaf a hwhom
  | manager seat children =>
    rw [hwhom] at h
    have hnone : asked.flatMap (failures leaf) = [] := by
      refine List.flatMap_eq_nil_iff.2 fun c hc => ?_
      rw [failures, hasked c hc, Batch.failed]
    rw [h.1, hnone, Batch.verdict]

theorem message_summary [DecidableEq κ] {returns : List (Return σ κ α)}
    (h : r.Closes leaf operation w (beneath r.place returns) journal) :
    (r.summary w).map Event.message = r.summaryText operation w returns := by
  rw [Closes] at h
  rw [summary, summaryText, ← length_failures leaf]
  cases hwhom : r.whom with
  | leaf a => rfl
  | manager seat children =>
    rw [hwhom] at h
    rw [h.1]
    cases (beneath r.place returns).flatMap (failures leaf) <;> rfl

end Closes

end Return

namespace Walk

variable {leaf : α → String} {operation : Request} {w : σ} {todo : List (List κ × Tree σ κ α)} {journal journal' : List Event}
  {returns answers : List (Return σ κ α)} {r : Return σ κ α}

/-- The errors of a walk are the summaries of the managers and the complaints about the components, in the order in which the
calls return. -/
theorem errors_eq (h : Walk leaf operation w todo journal returns answers journal') :
    Event.errors journal' =
      Event.errors journal ++ returns.flatMap fun r => r.summary w ++ r.entry leaf operation := by
  induction h with
  | nil => exact (List.append_nil _).symm
  | @cons r todo within asked returns answers journal body journal' hwithin hcloses hrest ihwithin ih =>
    have hopening : Event.errors (r.whom.opening operation w) = [] := by cases r.whom <;> rfl
    rw [ih, Event.errors_append, hcloses.errors_eq, ihwithin, Event.errors_append, hopening, Return.errors_entry,
      List.flatMap_append, List.flatMap_cons]
    simp only [List.append_assoc, List.append_nil]

theorem prefix_journal (h : Walk leaf operation w todo journal returns answers journal') : journal <+: journal' := by
  induction h with
  | nil => exact List.prefix_refl _
  | cons _ hcloses _ ihwithin ih =>
    exact (List.prefix_append _ _).trans (ihwithin.trans (hcloses.prefix_journal.trans ((List.prefix_append _ _).trans ih)))

/-- The complaint about a component follows at once when it has returned. -/
theorem entry_prefix (h : Walk leaf operation w todo journal returns answers journal') (hr : r ∈ returns) :
    r.journal ++ r.entry leaf operation <+: journal' := by
  induction h with
  | nil => cases hr
  | cons _ hcloses hrest ihwithin ih =>
    rcases List.mem_append.1 hr with hr | hr
    · exact (ihwithin hr).trans (hcloses.prefix_journal.trans ((List.prefix_append _ _).trans hrest.prefix_journal))
    rcases List.mem_cons.1 hr with rfl | hr
    · exact hrest.prefix_journal
    · exact ih hr

/-- All goes well on a walk on which all leaves go well. -/
theorem all_ok (h : Walk leaf operation w todo journal returns answers journal')
    (hleaf : ∀ r ∈ returns, ∀ a, r.whom = .leaf a → r.reply = .ok ()) : ∀ r ∈ returns, r.reply = .ok () := by
  induction h with
  | nil => simp
  | cons hwithin hcloses _ ihwithin ih =>
    obtain ⟨hleaves, hothers⟩ := List.forall_mem_append.1 hleaf
    obtain ⟨hself, hrest⟩ := List.forall_mem_cons.1 hothers
    have hok := ihwithin hleaves
    have hreply := hcloses.reply_ok (fun c hc => hok c (hwithin.answers_subset hc)) hself
    exact List.forall_mem_append.2 ⟨hok, List.forall_mem_cons.2 ⟨hreply, ih hrest⟩⟩

/-- There are as many errors on a walk as failures of the components that it goes through, those in nested batches included, and
managers that failed. The failures that a leaf brings along in an error of its own are among them, too, and told by nobody. -/
theorem count (h : Walk leaf operation w todo journal returns answers journal') (hplace : ∀ x ∈ todo, x.1 ≠ []) :
    (returns.flatMap fun r => r.summary w ++ r.entry leaf operation).length +
        SupervisorError.entriesOf (returns.flatMap Return.brought) =
      SupervisorError.entriesOf (answers.flatMap (Return.failures leaf)) +
        returns.countP fun r => r.toManager && r.hasFailed := by
  induction h with
  | nil => rfl
  | @cons r todo within asked returns answers journal body journal' hwithin hcloses hrest ihwithin ih =>
    have hcount := ihwithin fun x hx => Tree.ne_nil_of_mem_asked hx
    have hrest := ih fun x hx => hplace x (List.mem_cons_of_mem _ hx)
    -- the complaint about a call stands for its own entry, and the summary for the manager
    have hentries : SupervisorError.entriesOf (r.failures leaf) = (r.entry leaf operation).length +
        (SupervisorError.entriesOf r.brought + SupervisorError.entriesOf (asked.flatMap (Return.failures leaf))) := by
      rw [Return.entry_of_place (hplace _ List.mem_cons_self), ← SupervisorError.entriesOf_append,
        ← hcloses.listed_eq hwithin.answers_eq]
      exact Batch.entriesOf_failed ..
    simp only [List.flatMap_append, List.flatMap_cons, List.length_append, List.countP_append, List.countP_cons,
      SupervisorError.entriesOf_append, Return.length_summary]
    omega

end Walk

namespace Tree

/-- What the log says of a request to a tree of managers: of the calls within it, of the answer, and of the events that were told
until the journal was as it is. -/
structure Accounted [DecidableEq κ] (leaf : α → String) (operation : Request) (w : σ) (tree : Tree σ κ α)
    (returns : List (Return σ κ α)) (reply : Reply Unit) (events journal : List Event) : Prop where
  /-- All components of all managers are asked, from left to right for a start and in the exact reverse for a stop, and each
  manager returns behind its components. -/
  calls : returns.map (fun r => (r.place, r.whom)) = tree.calls operation w []
  /-- The call to the tree returns last. -/
  last : returns.getLast? = some ⟨[], tree, reply, journal⟩
  /-- The errors are, in the order in which the calls return, the summary of each manager that failed and the complaint about each
  component that did. -/
  errors : Event.errors events = returns.flatMap fun r => r.summary w ++ r.entry leaf operation
  /-- They give the names and the errors of the components, and the numbers of those that failed and of those that were asked. -/
  texts : (Event.errors events).map Event.message =
    returns.flatMap fun r => r.summaryText operation w returns ++ r.entryText leaf operation
  /-- The complaint about a component follows at once when it has returned. -/
  entry : ∀ r ∈ returns, r.journal ++ r.entry leaf operation <+: journal
  /-- A manager asks each of its components, answers with the verdict on them, and closes its batch behind all that is told of
  them. -/
  batch : ∀ r ∈ returns, ∀ seat children, r.whom = .manager seat children →
    (Return.beneath r.place returns).map (fun c => (c.place, c.whom)) =
        (Batch.order operation (seat.get w).members).map (fun k => (r.place ++ [k], children k)) ∧
      r.reply = Batch.verdict operation ((Return.beneath r.place returns).flatMap (Return.failures leaf)) ∧
      ∃ body, r.journal = body ++ [Batch.conclusion operation (seat.get w).members.length
          ((Return.beneath r.place returns).flatMap (Return.failures leaf))] ∧
        ∀ c ∈ Return.beneath r.place returns, c.journal ++ c.entry leaf operation <+: body
  /-- No error is told where all leaves go well. -/
  quiet : (∀ r ∈ returns, ∀ a, r.whom = .leaf a → r.reply = .ok ()) → Event.errors events = []
  /-- There are as many errors as failures in the answer, those in the errors of nested managers included, and managers that
  failed. The failures that a leaf brings along in an error of its own are in the answer, too, and are taken off. -/
  count : (Event.errors events).length + SupervisorError.entriesOf (returns.flatMap Return.brought) =
    SupervisorError.entriesOf (Batch.listed reply) + returns.countP fun r => r.toManager && r.hasFailed

/-- A call to a tree behind a walk through its components is accounted for. -/
theorem Accounted.of_walk [DecidableEq κ] {leaf : α → String} {operation : Request} {w : σ} {r : Return σ κ α}
    {within asked : List (Return σ κ α)} {journal body events : List Event} (hplace : r.place = [])
    (hwithin : Walk leaf operation w (r.whom.asked operation w r.place) (journal ++ r.whom.opening operation w) within asked
      body)
    (hcloses : r.Closes leaf operation w asked body) (hevents : r.journal = journal ++ events) :
    Accounted leaf operation w r.whom (within ++ [r]) r.reply events r.journal := by
  have hentry : r.entry leaf operation = [] := by rw [Return.entry, hplace]
  have hwalk : Walk leaf operation w [(r.place, r.whom)] journal (within ++ [r]) [r] r.journal := by
    have h := Walk.cons hwithin hcloses (.nil _)
    rwa [hentry, List.append_nil] at h
  have herrors : Event.errors events = (within ++ [r]).flatMap fun r => r.summary w ++ r.entry leaf operation := by
    have h := hwalk.errors_eq
    rw [hevents, Event.errors_append] at h
    exact List.append_cancel_left h
  have hcloses' : ∀ c ∈ within ++ [r], ∃ before within' body,
      Walk leaf operation w (c.whom.asked operation w c.place) before within' (Return.beneath c.place (within ++ [r])) body ∧
        c.Closes leaf operation w (Return.beneath c.place (within ++ [r])) body :=
    fun c hc => hwalk.closes (fun x hx => by rw [List.mem_singleton.1 hx]) (List.nodup_singleton _) hc
  constructor
  case calls =>
    rw [hwalk.returns_eq, ← hplace]
    exact List.flatMap_singleton ..
  case last =>
    obtain ⟨place, whom, reply, journal⟩ := r
    cases hplace
    exact List.getLast?_concat
  case errors => exact herrors
  case texts =>
    rw [herrors, List.map_flatMap]
    refine List.flatMap_congr fun c hc => ?_
    obtain ⟨_, _, _, -, h⟩ := hcloses' c hc
    rw [List.map_append, h.message_summary, Return.message_entry]
  case entry => exact fun c hc => hwalk.entry_prefix hc
  case batch =>
    intro c hc seat children hwhom
    obtain ⟨before, within', body', h, hc'⟩ := hcloses' c hc
    rw [Return.Closes, hwhom] at hc'
    obtain ⟨hreply, hjournal⟩ := hc'
    refine ⟨?_, hreply, body', hjournal, fun d hd => h.entry_prefix (h.answers_subset hd)⟩
    rw [h.answers_eq, hwhom, Tree.asked]
  case quiet =>
    intro hleaf
    rw [herrors]
    exact List.flatMap_eq_nil_iff.2 fun c hc => Return.silent_of_ok (hwalk.all_ok hleaf c hc)
  case count =>
    have hcount := hwithin.count fun x hx => ne_nil_of_mem_asked hx
    rw [herrors, hcloses.listed_eq hwithin.answers_eq]
    simp only [List.flatMap_append, List.flatMap_singleton, List.length_append, List.countP_append, List.countP_singleton,
      SupervisorError.entriesOf_append, Return.length_summary, hentry, List.length_nil]
    omega

/-- No failure of a batch goes unlogged, whatever the leaves of a tree of managers answer, as long as they call back none of the
managers and tell no errors of their own. Of all calls within the tree, put on record when they return, the log accounts for the
failed ones (`Accounted`): one complaint for each component, and one summary for each manager. -/
theorem failures_logged [DecidableEq κ] (tree : Tree σ κ α) (leaf : α → Lifecycle σ) (operation : Request) (s : Stage σ)
    (hanswers : ∀ a ∈ tree.leaves s.world, ((leaf a).request operation).Returns)
    (hquiet : ∀ a ∈ tree.leaves s.world, ((leaf a).request operation).Keeps fun w => tree.Unmoved s.world w)
    (hsilent : ∀ a ∈ tree.leaves s.world, ((leaf a).request operation).TellsNoErrors) :
    ∃ returns reply events t,
      Act.recording [] ((tree.observed leaf []).request operation) s = .ok (reply, returns) t ∧
      (tree.component leaf).request operation s = .ok reply t ∧ t.journal = s.journal ++ events ∧
      tree.Accounted (fun a => (leaf a).name) operation s.world returns reply events t.journal := by
  have hleaf : ∀ a ∈ tree.leaves s.world, ∀ u : Stage σ, tree.Unmoved s.world u.world → ∃ reply t told,
      (leaf a).request operation u = .ok reply t ∧ t.journal = u.journal ++ told ∧ Event.errors told = [] ∧
        tree.Unmoved s.world t.world := by
    intro a ha u hu
    obtain ⟨reply, t, ht⟩ := hanswers a ha u
    obtain ⟨told, hjournal, htold⟩ := hsilent a ha u
    rw [Act.leaves_of_ok ht] at hjournal
    exact ⟨reply, t, told, ht, hjournal, htold, (hquiet a ha).of_ok ht hu⟩
  obtain ⟨r, within, asked, body, v, hr, heq, hv, hwithin, hcloses⟩ := request_observed tree [] (fun u hu => hu) hleaf
    ⟨([], s.world), s.journal⟩ (unmoved_refl tree s.world)
  obtain ⟨hplace, rfl⟩ := Prod.mk.inj heq
  rw [← hplace] at hwithin
  obtain ⟨events, hevents⟩ := hwithin.prefix_journal.trans hcloses.prefix_journal
  rw [List.append_assoc] at hevents
  have hrun := Act.recording_ok hr
  refine ⟨within ++ [r], r.reply, _, ⟨v, r.journal⟩, hrun, ?_, hevents.symm, .of_walk hplace hwithin hcloses hevents.symm⟩
  exact ((observed_mirrors leaf [] r.whom).request operation).of_recording hrun

namespace Rehearsal

/-- What a run on record says of its errors: their texts, how many failures leaves brought along, and how many managers failed. -/
def accountOf : EStateM.Result Interruption (Stage World) (Reply Unit × List (Return World Nat Nat)) →
    List String × Nat × Nat
  | .ok (_, returns) t => ((Event.errors t.journal).map Event.message,
      SupervisorError.entriesOf (returns.flatMap Return.brought), returns.countP fun r => r.toManager && r.hasFailed)
  | .error _ _ => ([], 0, 0)

end Rehearsal

/-- `failures_logged` for a stop in the rehearsal: leaf 3 fails at both of its places, and the inner manager with it. Of the five
errors two are of managers that failed, so that the answer lists three failures. -/
theorem failures_logged_rehearsal :
    ∃ reply t,
      ((Tree.manager Part.fst Rehearsal.held).component Rehearsal.worker).request .stop Rehearsal.stage = .ok reply t ∧
      (Event.errors t.journal).map Event.message =
        ["Error during stop of component 'worker': IO error: stuck",
          "Error during stop of component 'worker': IO error: stuck",
          "1 components failed to stop (of 3 attempted)",
          "Error during stop of component 'lifecycle-manager': 1 components failed to stop",
          "2 components failed to stop (of 3 attempted)"] ∧
      SupervisorError.entriesOf (Batch.listed reply) = 3 := by
  have hleaves : ∀ n s, ((Rehearsal.worker n).request .stop).leaves s = s := by
    intro n s
    obtain ⟨reply, h⟩ := Rehearsal.worker_apply n .stop s
    exact Act.leaves_of_ok h
  have hanswers : ∀ n, ((Rehearsal.worker n).request .stop).Returns := fun n s =>
    let ⟨reply, h⟩ := Rehearsal.worker_apply n .stop s
    ⟨reply, s, h⟩
  obtain ⟨returns, reply, events, t, hrecorded, hplain, hjournal, haccounted⟩ := failures_logged
    (.manager Part.fst Rehearsal.held) Rehearsal.worker .stop Rehearsal.stage (fun n _ => hanswers n)
    (fun n _ s hs => by rw [hleaves]; exact hs) (fun n _ s => ⟨[], by rw [hleaves, List.append_nil], rfl⟩)
  have haccount : Rehearsal.accountOf (Act.recording [] (((Tree.manager Part.fst Rehearsal.held).observed
      Rehearsal.worker []).request .stop) Rehearsal.stage) =
        (["Error during stop of component 'worker': IO error: stuck",
          "Error during stop of component 'worker': IO error: stuck",
          "1 components failed to stop (of 3 attempted)",
          "Error during stop of component 'lifecycle-manager': 1 components failed to stop",
          "2 components failed to stop (of 3 attempted)"], 0, 2) := by
    decide +kernel
  rw [hrecorded] at haccount
  obtain ⟨htexts, hnumbers⟩ := Prod.mk.inj haccount
  obtain ⟨hbrought, hmanagers⟩ := Prod.mk.inj hnumbers
  have hevents : t.journal = events := hjournal
  have hfive : (Event.errors events).length = 5 := by
    rw [← hevents, ← List.length_map, htexts]
    rfl
  have hcount := haccounted.count
  rw [hbrought, hmanagers, hfive] at hcount
  exact ⟨reply, t, hplain, htexts, by omega⟩

end Tree

end Supervision

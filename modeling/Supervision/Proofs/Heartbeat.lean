import Supervision.Heartbeat
import Supervision.Proofs.Machine

/-!
# The hooks of a heartbeat

What the hooks of a heartbeat come to, for any threads: a start is the spawn of its worker, a stop or a reset the end of it, where
the worker is signalled and then joined. For threads on paper the outcomes to come decide how each of them ends.
-/

namespace Supervision

variable {σ : Type}

namespace Heartbeat

variable {heartbeat : Heartbeat} {seat : Part σ Pulse} {threads : Threads σ} {s t u : Stage σ}

/-- A start without a worker spawns one. -/
theorem start_spawned (hidle : (seat.get s.world).running = false)
    (hspawn : threads.spawn heartbeat.threadName s = .ok (.ok ()) u) :
    heartbeat.start seat threads s =
      .ok (.ok ()) ⟨seat.set { seat.get u.world with running := true } u.world, u.journal⟩ := by
  rw [start, Act.bind_ok (Part.read_apply seat s)]
  simp only [hidle, Bool.false_eq_true, if_false]
  rw [Act.bind_ok hspawn]
  rfl

/-- A start whose spawn is refused fails with the cause of that. -/
theorem start_refused {cause : Cause} (hidle : (seat.get s.world).running = false)
    (hspawn : threads.spawn heartbeat.threadName s = .ok (.error cause) u) :
    heartbeat.start seat threads s = .ok (.error cause) u := by
  rw [start, Act.bind_ok (Part.read_apply seat s)]
  simp only [hidle, Bool.false_eq_true, if_false]
  rw [Act.bind_ok hspawn]
  rfl

/-- A start whose spawn is interrupted is interrupted. -/
theorem start_interrupted {i : Interruption} (hidle : (seat.get s.world).running = false)
    (hspawn : threads.spawn heartbeat.threadName s = .error i u) : heartbeat.start seat threads s = .error i u := by
  rw [start, Act.bind_ok (Part.read_apply seat s)]
  simp only [hidle, Bool.false_eq_true, if_false]
  rw [Act.bind_error hspawn]

/-- The name of a worker has a NUL exactly if the name of the heartbeat has one. -/
theorem nul_mem_threadName : '\x00' ∈ heartbeat.threadName.toList ↔ '\x00' ∈ heartbeat.name.toList := by
  have hname : heartbeat.threadName.toList = "heartbeat-".toList ++ heartbeat.name.toList := String.toList_append
  rw [hname, List.mem_append]
  simp

/-- A worker that is joined and returned has told that it exits. -/
theorem joinWorker_joined (hrunning : (seat.get s.world).running = true)
    (hsignal : threads.signal heartbeat.threadName
      ⟨seat.set { seat.get s.world with running := false } s.world, s.journal⟩ = .ok () t)
    (hjoin : threads.join heartbeat.threadName t = .ok true u) :
    heartbeat.joinWorker seat threads s = .ok (.ok ()) (u.tell [.workerExiting heartbeat.name]) := by
  rw [joinWorker, Act.bind_ok (Part.read_apply seat s)]
  simp only [hrunning, if_true]
  rw [Act.bind_ok (Part.modify_apply seat _ s), Act.bind_ok hsignal, Act.bind_ok hjoin]
  rfl

/-- The failure of a heartbeat whose worker has panicked. -/
def panicked (heartbeat : Heartbeat) : Cause :=
  ⟨s!"heartbeat '{heartbeat.name}' worker panicked", []⟩

/-- A worker that is joined and has panicked is a failure. -/
theorem joinWorker_panicked (hrunning : (seat.get s.world).running = true)
    (hsignal : threads.signal heartbeat.threadName
      ⟨seat.set { seat.get s.world with running := false } s.world, s.journal⟩ = .ok () t)
    (hjoin : threads.join heartbeat.threadName t = .ok false u) :
    heartbeat.joinWorker seat threads s = .ok (.error heartbeat.panicked) u := by
  rw [joinWorker, Act.bind_ok (Part.read_apply seat s)]
  simp only [hrunning, if_true]
  rw [Act.bind_ok (Part.modify_apply seat _ s), Act.bind_ok hsignal, Act.bind_ok hjoin]
  rfl

/-- Where there is no worker, nothing is signalled or joined. -/
theorem joinWorker_idle (hidle : (seat.get s.world).running = false) :
    heartbeat.joinWorker seat threads s = .ok (.ok ()) s := by
  rw [joinWorker, Act.bind_ok (Part.read_apply seat s)]
  simp only [hidle, Bool.false_eq_true, if_false]
  rfl

/-- The hooks of a heartbeat return if its thread can be spawned, signalled and joined, well or ill. -/
theorem hooks_return (hspawn : (threads.spawn heartbeat.threadName).Returns)
    (hsignal : (threads.signal heartbeat.threadName).Returns) (hjoin : (threads.join heartbeat.threadName).Returns) :
    (heartbeat.hooks seat threads).Return := by
  have hread : (seat.read : Act σ Pulse).Returns := fun s => ⟨_, _, rfl⟩
  have hmodify : ∀ f, (seat.modify f : Act σ Unit).Returns := fun f s => ⟨_, _, rfl⟩
  have hstart : (heartbeat.start seat threads).Returns := by
    refine hread.bind fun pulse => ?_
    cases pulse.running with
    | true => exact .pure _
    | false =>
      refine hspawn.bind fun outcome => ?_
      cases outcome with
      | ok _ => exact (hmodify _).bind fun _ => .pure _
      | error cause => exact .pure _
  have hend : (heartbeat.joinWorker seat threads).Returns := by
    refine hread.bind fun pulse => ?_
    cases pulse.running with
    | false => exact .pure _
    | true =>
      refine (hmodify _).bind fun _ => hsignal.bind fun _ => hjoin.bind fun returned => ?_
      cases returned with
      | true => exact fun s => ⟨_, _, rfl⟩
      | false => exact .pure _
  exact ⟨fun phase => by cases phase <;> assumption, fun e s => ⟨_, _, rfl⟩⟩

/-- What outlives a change of the pulse, and whatever is done to the thread, outlives every hook of a heartbeat. -/
theorem invoke_keeps {P : σ → Prop} (hpulse : ∀ pulse w, P w → P (seat.set pulse w))
    (hspawn : (threads.spawn heartbeat.threadName).Keeps P) (hsignal : (threads.signal heartbeat.threadName).Keeps P)
    (hjoin : (threads.join heartbeat.threadName).Keeps P) (phase : Phase) :
    ((heartbeat.hooks seat threads).invoke phase).Keeps P := by
  have hread : (seat.read : Act σ Pulse).Keeps P := fun _ hs => hs
  have hmodify : ∀ f, (seat.modify f : Act σ Unit).Keeps P := fun f s hs => hpulse _ _ hs
  have hstart : (heartbeat.start seat threads).Keeps P := by
    refine hread.bind fun pulse => ?_
    cases pulse.running with
    | true => exact .pure _
    | false =>
      refine hspawn.bind fun outcome => ?_
      cases outcome with
      | ok _ => exact (hmodify _).bind fun _ => .pure _
      | error cause => exact .pure _
  have hend : (heartbeat.joinWorker seat threads).Keeps P := by
    refine hread.bind fun pulse => ?_
    cases pulse.running with
    | false => exact .pure _
    | true =>
      refine (hmodify _).bind fun _ => hsignal.bind fun _ => hjoin.bind fun returned => ?_
      cases returned with
      | true => exact (Act.Keeps.log _).bind fun _ => .pure _
      | false => exact .pure _
  cases phase <;> assumption

end Heartbeat

/-- What is done to a thread that is ended: it is signalled, and then joined. -/
def ThreadDeed.ended (name : String) : List ThreadDeed :=
  [.signalled name, .joined name]

namespace ThreadHost

/-- The byte zero is part of no character but NUL. -/
theorem zero_mem_utf8EncodeChar {c : Char} : (0 : UInt8) ∈ String.utf8EncodeChar c ↔ c = '\x00' := by
  constructor
  · intro h
    have hcode : c.val.toNat = 0 := by
      simp only [String.utf8EncodeChar] at h
      generalize c.val.toNat = code at h ⊢
      -- Every byte of a longer encoding has its highest bit set.
      repeat' split at h
      all_goals
        simp only [List.mem_cons, List.not_mem_nil, or_false, ← UInt8.toNat_inj, UInt8.toNat_ofNat', UInt8.toNat_zero] at h
        omega
    exact Char.toNat_inj.1 hcode
  · rintro rfl
    decide

/-- The bytes of a text are those of its characters. -/
theorem bytes_eq_flatMap (text : String) : text.toUTF8.data.toList = text.toList.flatMap String.utf8EncodeChar := by
  obtain ⟨characters, rfl⟩ : ∃ characters, text = String.ofList characters := ⟨text.toList, String.ofList_toList.symm⟩
  rw [String.toUTF8_eq_toByteArray, String.toByteArray_ofList, String.toList_ofList, List.utf8Encode, List.data_toByteArray]

/-- A text has no NUL exactly if none of its characters is one. -/
theorem nulPosition?_eq_none {text : String} : nulPosition? text = none ↔ '\x00' ∉ text.toList := by
  rw [nulPosition?, List.findIdx?_eq_none_iff, bytes_eq_flatMap]
  simp only [List.mem_flatMap, decide_eq_false_iff_not]
  constructor
  · intro h hnul
    exact h 0 ⟨_, hnul, zero_mem_utf8EncodeChar.2 rfl⟩ rfl
  · rintro h b ⟨c, hc, hb⟩ rfl
    exact h (zero_mem_utf8EncodeChar.1 hb ▸ hc)

variable (seat : Part σ ThreadHost) {name : String}

/-- A spawn under a name with a NUL panics. -/
theorem spawn_panics {position : Nat} (h : nulPosition? name = some position) (s : Stage σ) :
    ∃ message, spawn seat name s = .error (.panic message) s := by
  rw [spawn, h]
  exact ⟨_, rfl⟩

/-- A spawn with an error to come is refused, and nothing is added to the deeds. -/
theorem spawn_refused {seat : Part σ ThreadHost} {s : Stage σ} {message : String} (h : nulPosition? name = none)
    (houtcome : (seat.get s.world).spawnOutcomes.head?.join = some message) :
    spawn seat name s = .ok (.error ⟨message, []⟩)
      ⟨seat.set { seat.get s.world with spawnOutcomes := (seat.get s.world).spawnOutcomes.tail } s.world, s.journal⟩ := by
  rw [spawn, h]
  simp only [Act.bind_apply, Part.read_apply, Part.modify_apply, houtcome, Act.pure_apply]

/-- A spawn with no error to come adds to the deeds. -/
theorem spawn_spawned {seat : Part σ ThreadHost} (hl : seat.Lawful) {s : Stage σ} (h : nulPosition? name = none)
    (houtcome : (seat.get s.world).spawnOutcomes.head?.join = none) :
    spawn seat name s = .ok (.ok ()) ⟨seat.set { seat.get s.world with
      spawnOutcomes := (seat.get s.world).spawnOutcomes.tail
      deeds := (seat.get s.world).deeds ++ [.spawned name] } s.world, s.journal⟩ := by
  rw [spawn, h]
  simp only [Act.bind_apply, Part.read_apply, Part.modify_apply, houtcome, hl.get_set, hl.set_set, Act.pure_apply]

/-- A spawn under a name without a NUL answers, and changes nothing but the threads. -/
theorem spawn_apply {seat : Part σ ThreadHost} (hl : seat.Lawful) (h : nulPosition? name = none) (s : Stage σ) :
    ∃ outcome host, spawn seat name s = .ok outcome ⟨seat.set host s.world, s.journal⟩ := by
  cases houtcome : (seat.get s.world).spawnOutcomes.head?.join with
  | some message => exact ⟨_, _, spawn_refused h houtcome⟩
  | none => exact ⟨_, _, spawn_spawned hl h houtcome⟩

/-- A signal adds to the deeds. -/
theorem signal_apply (s : Stage σ) :
    signal seat name s = .ok () ⟨seat.set { seat.get s.world with
      deeds := (seat.get s.world).deeds ++ [.signalled name] } s.world, s.journal⟩ := rfl

/-- A join answers what is to come, and adds to the deeds. -/
theorem join_apply (s : Stage σ) :
    join seat name s = .ok ((seat.get s.world).joinOutcomes.head?.getD true) ⟨seat.set { seat.get s.world with
      joinOutcomes := (seat.get s.world).joinOutcomes.tail
      deeds := (seat.get s.world).deeds ++ [.joined name] } s.world, s.journal⟩ := rfl

/-- What is kept of the threads behind the end of one of them. -/
def ended (host : ThreadHost) (name : String) : ThreadHost :=
  { host with joinOutcomes := host.joinOutcomes.tail, deeds := host.deeds ++ ThreadDeed.ended name }

/-- A thread that is signalled and then joined has ended. -/
theorem join_signalled {seat : Part σ ThreadHost} (hl : seat.Lawful) (name : String) (s : Stage σ) :
    ∃ t, (threads seat).signal name s = .ok () t ∧ (threads seat).join name t =
      .ok ((seat.get s.world).joinOutcomes.head?.getD true) ⟨seat.set ((seat.get s.world).ended name) s.world, s.journal⟩ := by
  refine ⟨_, signal_apply seat s, (join_apply seat _).trans ?_⟩
  simp only [hl.get_set, hl.set_set, ended, ThreadDeed.ended, List.append_assoc, List.cons_append, List.nil_append]

end ThreadHost

/-- The worker of a heartbeat is signalled and joined on paper, and the outcome to come decides how that ends. -/
theorem Heartbeat.joinWorker_on_paper {heartbeat : Heartbeat} {pulse : Part σ Pulse} {host : Part σ ThreadHost} {s : Stage σ}
    {w : σ} {returned : Bool} (hhost : host.Lawful) (hrunning : (pulse.get s.world).running = true)
    (hw : w = pulse.set { pulse.get s.world with running := false } s.world)
    (hreturned : (host.get w).joinOutcomes.head?.getD true = returned) :
    heartbeat.joinWorker pulse (ThreadHost.threads host) s =
      .ok (if returned then .ok () else .error heartbeat.panicked) ⟨host.set ((host.get w).ended heartbeat.threadName) w,
        s.journal ++ if returned then [.workerExiting heartbeat.name] else []⟩ := by
  subst hw
  obtain ⟨t, hsignal, hjoin⟩ := ThreadHost.join_signalled hhost heartbeat.threadName
    ⟨pulse.set { pulse.get s.world with running := false } s.world, s.journal⟩
  rw [hreturned] at hjoin
  cases returned with
  | true => exact joinWorker_joined hrunning hsignal hjoin
  | false =>
    simp only [Bool.false_eq_true, if_false, List.append_nil]
    exact joinWorker_panicked hrunning hsignal hjoin

end Supervision

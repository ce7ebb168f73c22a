import Supervision.Event

/-!
# Computations of the supervised world

Hooks, components and the supervisor around them act on a world of any type `σ`, tell events, and may be cut short by an
`Interruption`. What was done before an interruption stays done: `Act` hands the world on in both cases, as a stack that
unwinds leaves the memory it has written. A `Part` is a place in a world; `Part.focus` runs a computation on that place
alone, and `Part.hold` one that keeps the place in hand while the rest of the world is at work.
-/

namespace Supervision

/-- Why a computation ends without an answer. -/
inductive Interruption where
  /-- A component panicked; the panic unwinds to whoever catches it. -/
  | panic (message : String)
  /-- The process ends with this status. -/
  | exit (status : Int32)
  /-- A component was asked for something from inside its own hook, and waits for itself. -/
  | deadlock
  /-- The calls are nested deeper than any finite plan of calls can nest them. -/
  | overflow
deriving DecidableEq, Repr

/-- The world and the events told so far, oldest first. -/
structure Stage (σ : Type) where
  world : σ
  journal : List Event := []

/-- A computation on a world that always answers, unless it is interrupted. -/
abbrev Act (σ : Type) := EStateM Interruption (Stage σ)

variable {σ τ α β : Type}


namespace Act

/-- Tells an event. -/
def log (event : Event) : Act σ Unit :=
  modify fun stage => { stage with journal := stage.journal ++ [event] }

/-- The world as it is. -/
def world : Act σ σ :=
  return (← get).world

/-- Changes the world. -/
def modifyWorld (f : σ → σ) : Act σ Unit :=
  modify fun stage => { stage with world := f stage.world }

/-- Goes on with the value of a computation that may fail; its error is the answer of the whole. -/
def andThen (x : Act σ (Reply α)) (f : α → Act σ (Reply β)) : Act σ (Reply β) := do
  match ← x with
  | .ok a => f a
  | .error e => return .error e

/-- Runs a computation up to its end or its panic, of which the text is the answer. Any other interruption goes on. -/
def catchPanic (x : Act σ α) : Act σ (Except String α) := fun stage =>
  match x stage with
  | .ok a s => .ok (.ok a) s
  | .error (.panic m) s => .ok (.error m) s
  | .error i s => .error i s

/-- What a computation makes of a world: its answer or its interruption, the world after it, and the events it told. -/
def runOn (x : Act σ α) (world : σ) : Except Interruption α × σ × List Event :=
  match x ⟨world, []⟩ with
  | .ok a s => (.ok a, s.world, s.journal)
  | .error i s => (.error i, s.world, s.journal)

end Act

/-- A place in a world: how to see it, and how to put something in its stead. -/
structure Part (σ τ : Type) where
  get : σ → τ
  set : τ → σ → σ

namespace Part

/-- A place keeps what was put there, and putting back what is there changes nothing. -/
structure Lawful (part : Part σ τ) : Prop where
  get_set : ∀ t s, part.get (part.set t s) = t
  set_get : ∀ s, part.set (part.get s) s = s
  set_set : ∀ t t' s, part.set t (part.set t' s) = part.set t s

/-- The whole world as a place in itself. -/
def whole : Part σ σ := ⟨id, fun t _ => t⟩

/-- The first of two things. -/
def fst : Part (τ × σ) τ := ⟨Prod.fst, fun t p => (t, p.2)⟩

/-- The second of two things. -/
def snd : Part (τ × σ) σ := ⟨Prod.snd, fun s p => (p.1, s)⟩

/-- A place in a place. -/
def comp {υ : Type} (outer : Part σ τ) (inner : Part τ υ) : Part σ υ :=
  ⟨fun s => inner.get (outer.get s), fun u s => outer.set (inner.set u (outer.get s)) s⟩

/-- What is at a place. -/
def read (part : Part σ τ) : Act σ τ :=
  return part.get (← Act.world)

/-- Changes what is at a place. -/
def modify (part : Part σ τ) (f : τ → τ) : Act σ Unit :=
  Act.modifyWorld fun s => part.set (f (part.get s)) s

/-- Runs a computation on a place alone. -/
def focus (part : Part σ τ) (x : Act τ α) : Act σ α := fun stage =>
  match x ⟨part.get stage.world, stage.journal⟩ with
  | .ok a s => .ok a ⟨part.set s.world stage.world, s.journal⟩
  | .error i s => .error i ⟨part.set s.world stage.world, s.journal⟩

/-- Runs a computation that has a place in hand beside the world, and puts the place back at its end. -/
def hold (part : Part σ τ) (x : Act (τ × σ) α) : Act σ α := fun stage =>
  match x ⟨(part.get stage.world, stage.world), stage.journal⟩ with
  | .ok a s => .ok a ⟨part.set s.world.1 s.world.2, s.journal⟩
  | .error i s => .error i ⟨part.set s.world.1 s.world.2, s.journal⟩

theorem lawful_whole : (whole : Part σ σ).Lawful := ⟨fun _ _ => rfl, fun _ => rfl, fun _ _ _ => rfl⟩

theorem lawful_fst : (fst : Part (τ × σ) τ).Lawful := ⟨fun _ _ => rfl, fun _ => rfl, fun _ _ _ => rfl⟩

theorem lawful_snd : (snd : Part (τ × σ) σ).Lawful := ⟨fun _ _ => rfl, fun _ => rfl, fun _ _ _ => rfl⟩

theorem Lawful.comp {υ : Type} {outer : Part σ τ} {inner : Part τ υ} (ho : outer.Lawful) (hi : inner.Lawful) :
    (outer.comp inner).Lawful where
  get_set t s := by simp [Part.comp, ho.get_set, hi.get_set]
  set_get s := by simp [Part.comp, ho.set_get, hi.set_get]
  set_set t t' s := by simp [Part.comp, ho.get_set, ho.set_set, hi.set_set]

end Part

end Supervision

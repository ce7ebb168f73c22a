import Supervision.Error

/-!
# Scripts

A scenario is played by components whose hooks follow a script: one `Outcome` for each call, and success when the script
is used up. An outcome may itself give `Command`s to the supervisor, which is how components call back into it.
-/

namespace Supervision.Scenario

/-- Why a scripted call fails: for a reason of its own, or with an error of the supervisor. -/
inductive Blame where
  | reason (cause : Cause)
  | error (error : SupervisorError)
deriving Repr

namespace Blame

/-- The cause that a hook gives. -/
def toCause : Blame → Cause
  | reason cause => cause
  | error e => e.toCause

/-- The error with which a component without a state machine answers. A reason of its own counts as one of input and
output. -/
def toError : Blame → SupervisorError
  | reason cause => .io cause.message
  | error e => e

end Blame

mutual

/-- What a scripted call does. -/
inductive Outcome where
  | succeed
  | fail (blame : Blame)
  | panic (message : String)
  /-- Gives one command and fails with its error, if it has one. -/
  | attempt (command : Command)
  /-- Gives commands, noting the answer to each under its label, and goes on with another outcome. -/
  | perform (commands : List (String × Command)) (last : Outcome)

/-- What the supervisor and the actors of a scenario can be told. Components are numbered as they are cast. -/
inductive Command where
  /-- Carries a request out on a component. -/
  | request (component : Nat) (request : Request)
  /-- Carries a request out on a component, and logs a failure in place of handing it on. -/
  | quietly (component : Nat) (request : Request)
  | name (component : Nat)
  | same (first second : Nat)
  | state (component : Nat)
  /-- Whether a component is in a state. -/
  | isIn (component : Nat) (state : State)
  | isResettable (component : Nat)
  | failure (component : Nat)
  | describe (component : Nat)
  /-- Calls a hook past the state machine. -/
  | hook (component : Nat) (phase : Phase)
  /-- Replaces scripts. -/
  | recast (component : Nat) (start stop reset : Option (List Outcome))
  | isRunning (component : Nat)
  | beats (component : Nat)
  /-- Lets time pass until a heartbeat has beaten so often. -/
  | awaitBeats (component : Nat) (count : Nat)
  | add (manager component : Nat)
  | remove (manager component : Nat)
  | contains (manager component : Nat)
  | clear (manager : Nat)
  | size (manager : Nat)
  | isEmpty (manager : Nat)
  | members (manager : Nat)
  | batch (manager : Nat) (request : Request)
  | batchQuietly (manager : Nat) (request : Request)
  | enlist (component : Nat)
  | discharge (component : Nat)
  | enlistAll (components : List Nat)
  | dischargeAll (components : List Nat)
  | dischargeEveryone
  | registered
  | isHookInstalled
  | runExitAction
  /-- Fires the exit hook. -/
  | fire
  /-- Has the exit hook refuse an installation to come. -/
  | refuseInstall (message : String)
  /-- Has the exit hook refuse a removal to come. -/
  | refuseUninstall (message : String)

end

mutual

/-- How many outcomes are written down in an outcome, itself among them. -/
def Outcome.count : Outcome → Nat
  | .succeed | .fail _ | .panic _ => 1
  | .attempt command => command.count + 1
  | .perform commands last => countLabelled commands + last.count + 1

/-- How many outcomes are written down in a command. -/
def Command.count : Command → Nat
  | .recast _ start stop reset => countScript? start + countScript? stop + countScript? reset
  | _ => 0

/-- How many outcomes are written down in labelled commands. -/
def countLabelled : List (String × Command) → Nat
  | [] => 0
  | (_, command) :: rest => command.count + countLabelled rest

/-- How many outcomes are written down in a script that may be missing. -/
def countScript? : Option (List Outcome) → Nat
  | none => 0
  | some outcomes => countScript outcomes

/-- How many outcomes are written down in a script. -/
def countScript : List Outcome → Nat
  | [] => 0
  | outcome :: rest => outcome.count + countScript rest

end

/-- The scripts of a component, one for each hook. -/
structure Scripts where
  start : List Outcome := []
  stop : List Outcome := []
  reset : List Outcome := []

namespace Scripts

/-- The script of a hook. -/
def line (scripts : Scripts) : Phase → List Outcome
  | .start => scripts.start
  | .stop => scripts.stop
  | .reset => scripts.reset

/-- The scripts after a call of a hook. -/
def advance (scripts : Scripts) : Phase → Scripts
  | .start => { scripts with start := scripts.start.tail }
  | .stop => { scripts with stop := scripts.stop.tail }
  | .reset => { scripts with reset := scripts.reset.tail }

/-- How many outcomes are written down in scripts. -/
def count (scripts : Scripts) : Nat :=
  countScript scripts.start + countScript scripts.stop + countScript scripts.reset

end Scripts

/-- What a command answers when it goes well. -/
inductive Value where
  | unit
  | flag (value : Bool)
  | count (value : Nat)
  | text (value : String)
  | state (value : State)
  | failure (cause : Option Cause)
  | components (ids : List Nat)
  /-- A hook that was called past its machine failed. -/
  | hookFailed (cause : Cause)

/-- What is noted while a scenario plays. -/
inductive Note where
  /-- A hook was called. -/
  | call (text : String)
  /-- A command that a hook gave was answered. -/
  | answer (label : String) (answer : Reply Value)

end Supervision.Scenario

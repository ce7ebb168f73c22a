import Supervision.Coordinator

/-!
# An exit hook that keeps a ledger

`HookLedger` is an exit hook without a process behind it: it is armed and disarmed, counts what was asked of it, and
refuses calls as it was told to. A refused call changes nothing but the list of refusals to come. It notes the two calls
that a careful owner never makes: to install an armed hook, and to uninstall one that is not armed.
-/

namespace Supervision

variable {σ : Type}

/-- An exit hook on paper. -/
structure HookLedger where
  armed : Bool := false
  installs : Nat := 0
  uninstalls : Nat := 0
  /-- Installations of a hook that was armed already. -/
  doubleInstalls : Nat := 0
  /-- Removals of a hook that was not armed. -/
  danglingUninstalls : Nat := 0
  /-- The texts with which the next installations are refused. -/
  installRefusals : List String := []
  /-- The texts with which the next removals are refused. -/
  uninstallRefusals : List String := []
deriving DecidableEq, Repr, Inhabited

namespace HookLedger

/-- Arms the hook, unless a refusal is due. -/
def install (ledger : HookLedger) : Reply Unit × HookLedger :=
  match ledger.installRefusals with
  | m :: rest => (.error (.exitHook m), { ledger with installRefusals := rest })
  | [] =>
    (.ok (), { ledger with
      armed := true
      installs := ledger.installs + 1
      doubleInstalls := if ledger.armed then ledger.doubleInstalls + 1 else ledger.doubleInstalls })

/-- Disarms the hook, unless a refusal is due. -/
def uninstall (ledger : HookLedger) : Reply Unit × HookLedger :=
  match ledger.uninstallRefusals with
  | m :: rest => (.error (.exitHook m), { ledger with uninstallRefusals := rest })
  | [] =>
    (.ok (), { ledger with
      armed := false
      uninstalls := ledger.uninstalls + 1
      danglingUninstalls := if ledger.armed then ledger.danglingUninstalls else ledger.danglingUninstalls + 1 })

/-- Carries out one of the two calls on the ledger at a place of the world. -/
def act (seat : Part σ HookLedger) (call : HookLedger → Reply Unit × HookLedger) : Act σ (Reply Unit) := do
  let (reply, ledger) := call (← seat.read)
  seat.modify fun _ => ledger
  return reply

/-- The ledger at a place of the world, as an exit hook. -/
def exitHook (seat : Part σ HookLedger) : ExitHook σ where
  install := act seat install
  uninstall := act seat uninstall

/-- Fires the hook: an armed one is disarmed and then runs the action. Answers whether it was armed. -/
def fire (seat : Part σ HookLedger) (action : Act σ Unit) : Act σ Bool := do
  if (← seat.read).armed then
    seat.modify fun ledger => { ledger with armed := false }
    action
    return true
  else
    return false

end HookLedger

end Supervision

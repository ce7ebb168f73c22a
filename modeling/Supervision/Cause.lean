/-!
# Causes of failure

A cause is the error that a component's hook gave: a text, and below it the texts of what led to it, the last one being
the root. `Cause.message` is the whole chain on one line.
-/

namespace Supervision

/-- Why a hook failed: the outermost text and the chain below it, root last. -/
structure Cause where
  text : String
  sources : List String := []
deriving DecidableEq, Repr, Inhabited

namespace Cause

/-- All texts from the outermost to the root. -/
def chain (cause : Cause) : List String :=
  cause.text :: cause.sources

/-- The chain on one line, each text followed by what led to it. -/
def message (cause : Cause) : String :=
  ": ".intercalate cause.chain

end Cause

end Supervision

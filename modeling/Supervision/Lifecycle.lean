import Supervision.Act

/-!
# Supervised components

To its owners a component is a name and an answer to requests: a `Lifecycle`. State machines, managers and components
that are neither are all of this shape, which is what lets managers nest.
-/

namespace Supervision

variable {σ : Type}

/-- A component as its owners see it. -/
structure Lifecycle (σ : Type) where
  /-- The name for logs and errors. Components are told apart by identity, never by name. -/
  name : String
  /-- Carries a request out. -/
  request : Request → Act σ (Reply Unit)

namespace Lifecycle

/-- Starts a component. -/
def start (component : Lifecycle σ) : Act σ (Reply Unit) :=
  component.request .start

/-- Stops a component. -/
def stop (component : Lifecycle σ) : Act σ (Reply Unit) :=
  component.request .stop

/-- Carries a request out and logs a failure in place of handing it on. Answers whether it went well. -/
def quietly (component : Lifecycle σ) (request : Request) : Act σ Bool := do
  match ← component.request request with
  | .ok () => return true
  | .error e =>
    Act.log (.requestIgnored request component.name e)
    return false

end Lifecycle

end Supervision

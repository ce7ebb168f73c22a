/-!
# Registration sets

A `Registry` holds identities in the order in which they were added, each at most once. The order is the start order of
a batch, and its reverse the stop order.
-/

namespace Supervision

variable {κ : Type}

/-- Identities in the order of their registration. -/
structure Registry (κ : Type) where
  members : List κ
  nodup : members.Nodup

namespace Registry

/-- The registry in which nothing is registered. -/
def empty : Registry κ := ⟨[], List.nodup_nil⟩

instance : EmptyCollection (Registry κ) := ⟨empty⟩

instance : Inhabited (Registry κ) := ⟨empty⟩

instance : Membership κ (Registry κ) := ⟨fun registry k => k ∈ registry.members⟩

/-- How many identities are registered. -/
def size (registry : Registry κ) : Nat :=
  registry.members.length

/-- Whether nothing is registered. -/
def isEmpty (registry : Registry κ) : Bool :=
  registry.members.isEmpty

variable [DecidableEq κ]

/-- Whether an identity is registered. -/
def contains (registry : Registry κ) (k : κ) : Bool :=
  decide (k ∈ registry.members)

/-- Registers an identity behind all others, unless it is registered already. -/
def insert (registry : Registry κ) (k : κ) : Registry κ :=
  if h : k ∈ registry.members then registry
  else
    ⟨registry.members ++ [k], by
      refine List.nodup_append.2 ⟨registry.nodup, by simp, ?_⟩
      intro a ha b hb
      rw [List.mem_singleton.1 hb]
      exact fun e => h (e ▸ ha)⟩

/-- Takes an identity out; the others keep their order. -/
def erase (registry : Registry κ) (k : κ) : Registry κ :=
  ⟨registry.members.filter (· ≠ k), registry.nodup.sublist List.filter_sublist⟩

end Registry

end Supervision

/-!
# Sets of code points

A set of characters that a standard lists is given by its edges: the code points, in increasing order, at which the set
begins, ends, begins again, and so on.
-/

namespace Supervision.Text

/-- A set of code points by its edges. -/
structure CodePoints where
  edges : List Nat

namespace CodePoints

/-- Whether a code point is in the set: as many beginnings as ends lie at or before it, and one more. -/
def hasPoint (set : CodePoints) (n : Nat) : Bool :=
  (set.edges.takeWhile (· ≤ n)).length % 2 == 1

/-- Whether a character is in the set. -/
def has (set : CodePoints) (c : Char) : Bool :=
  set.hasPoint c.toNat

end CodePoints

end Supervision.Text

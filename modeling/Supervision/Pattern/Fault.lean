import Supervision.Pattern.Reader

/-!
# Patterns that cannot be used

A pattern is made into a machine that reads bytes and knows no tables of the properties of characters. So a pattern fails
that needs such a table, that could match a part of a character, or that nests its parts too deeply (`Pattern.isBuildable`).
Word boundaries need a table too; they fail one step later, and with another text (`Pattern.fault?`).
-/

namespace Supervision

/-- Why a text is no pattern that can be used. -/
inductive PatternFault where
  | unbuildable
  | wordBoundary
deriving DecidableEq, Repr

/-- The text of a fault. -/
def PatternFault.message : PatternFault → String
  | unbuildable => "error building NFA"
  | wordBoundary =>
    "unsupported regex feature for DFAs: cannot build DFAs for regexes with Unicode word boundaries; switch to ASCII word boundaries, or heuristically enable Unicode word boundaries or use a different regex engine"

/-- Whether a character may stand in a set: with Unicode it must not be asked for in its other case, and without it must be
one of ASCII. -/
def PatternChar.isOfSets (m : PatternModes) (c : PatternChar) : Bool :=
  if m.unicode then !m.ignoreCase else c.char.toNat < 128

/-- Whether a character may stand outside sets. Without Unicode, a byte that is none of ASCII is part of a character. -/
def PatternChar.isBuildable (m : PatternModes) (c : PatternChar) : Bool :=
  if m.unicode then !m.ignoreCase else !c.isByte || c.char.toNat < 128

/-- Whether a class with a letter can be told without a table. -/
def LetteredClass.isBuildable (m : PatternModes) (negated : Bool) : Bool :=
  !m.unicode && !negated

mutual

/-- Whether a set can be told without a table and holds whole characters. -/
def CharSet.isBuildable (m : PatternModes) : CharSet → Bool
  | .empty => true
  | .char c => c.isOfSets m
  | .range low high => low.isOfSets m && high.isOfSets m
  | .named negated _ => if m.unicode then !m.ignoreCase else !negated
  | .lettered negated _ => LetteredClass.isBuildable m negated
  | .union items => CharSet.areBuildable m items
  | .combined _ left right => left.isBuildable m && right.isBuildable m
  | .bracketed negated inside => (m.unicode || !negated) && inside.isBuildable m

/-- The same for all of some sets. -/
def CharSet.areBuildable (m : PatternModes) : List CharSet → Bool
  | [] => true
  | set :: rest => set.isBuildable m && CharSet.areBuildable m rest

end

namespace Pattern

mutual

/-- The parts of a pattern that have no parts, with the modes at each, and the modes behind it. -/
def leaves (m : PatternModes) : Pattern → List (PatternModes × Pattern) × PatternModes
  | .modes changes => ([], m.changeAll changes)
  | .repeated _ _ part => part.leaves m
  | .group kind inside => ((inside.leaves (m.changeAll kind.changes)).1, m)
  | .sequence parts => leavesOfAll m parts
  | .choice branches => leavesOfAll m branches
  | p => ([(m, p)], m)

/-- The same for patterns one after the other. -/
def leavesOfAll (m : PatternModes) : List Pattern → List (PatternModes × Pattern) × PatternModes
  | [] => ([], m)
  | p :: rest =>
    let (first, m) := p.leaves m
    let (others, m) := leavesOfAll m rest
    (first ++ others, m)

end

/-- Whether a part that has no parts can be built. -/
def isBuildableLeaf (m : PatternModes) : Pattern → Bool
  | .char c => c.isBuildable m
  | .anyChar => m.unicode
  | .lettered negated _ => LetteredClass.isBuildable m negated
  | .set chars => chars.isBuildable m
  | _ => true

/-- Whether a part asks for a boundary of words that are written in any script. -/
def needsWords (m : PatternModes) : Pattern → Bool
  | .assertion a => m.unicode && a.isOfWords
  | _ => false

/-- How deep the parts of a pattern may be nested. -/
def greatestNesting : Nat := 250

/-- Whether a machine can be built for a pattern. -/
def isBuildable (p : Pattern) : Bool :=
  p.depth ≤ greatestNesting && (p.leaves {}).1.all fun (m, leaf) => isBuildableLeaf m leaf

/-- What is wrong with a text as a pattern, if anything is. -/
def fault? (s : List Char) : Option PatternFault :=
  match read? s with
  | none => some .unbuildable
  | some p =>
    if !p.isBuildable then some .unbuildable
    else if (p.leaves {}).1.any fun (m, leaf) => needsWords m leaf then some .wordBoundary
    else none

end Pattern

end Supervision

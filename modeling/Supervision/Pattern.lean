/-!
# Patterns

A `Pattern` is a regular expression that the value of a field is compared with. It is made of characters, sets of characters
and assertions about a place, by repetition, grouping, sequence and choice, and it may switch modes on and off on its way.

No event has a field with a value, so a pattern is never matched. But a directive with a pattern that cannot be made into a
machine is refused, and so the form of patterns counts.
-/

namespace Supervision

/-- A mode that a pattern may switch on and off. -/
inductive PatternMode where
  | ignoreCase
  | multiLine
  | dotAll
  | swapGreed
  | unicode
  | carriageReturns
  /-- Blanks and comments between the parts of a pattern have no meaning. -/
  | verbose
deriving DecidableEq, Repr

/-- The mode of a letter. -/
def PatternMode.ofChar? : Char → Option PatternMode
  | 'i' => some .ignoreCase
  | 'm' => some .multiLine
  | 's' => some .dotAll
  | 'U' => some .swapGreed
  | 'u' => some .unicode
  | 'R' => some .carriageReturns
  | 'x' => some .verbose
  | _ => none

/-- A mode switched on or off. -/
structure ModeChange where
  mode : PatternMode
  on : Bool
deriving DecidableEq, Repr

/-- The modes that tell what a pattern may hold and how it is read. -/
structure PatternModes where
  unicode : Bool := true
  ignoreCase : Bool := false
  verbose : Bool := false
deriving DecidableEq, Repr

namespace PatternModes

/-- The modes after one was switched. -/
def change (modes : PatternModes) (c : ModeChange) : PatternModes :=
  match c.mode with
  | .unicode => { modes with unicode := c.on }
  | .ignoreCase => { modes with ignoreCase := c.on }
  | .verbose => { modes with verbose := c.on }
  | _ => modes

/-- The modes after some were switched. -/
def changeAll (modes : PatternModes) (changes : List ModeChange) : PatternModes :=
  changes.foldl change modes

end PatternModes

/-- A character that stands for itself. -/
structure PatternChar where
  char : Char
  /-- It is written as a byte, in two hexadecimal digits. -/
  isByte : Bool := false
deriving DecidableEq, Repr

/-- The classes of characters that have a letter. -/
inductive LetteredClass where
  | digit
  | space
  | word
deriving DecidableEq, Repr

/-- What is made of two sets. -/
inductive SetOperator where
  | intersection
  | difference
  | symmetricDifference
deriving DecidableEq, Repr

/-- A set of characters. -/
inductive CharSet where
  | empty
  | char (c : PatternChar)
  | range (low high : PatternChar)
  /-- A class that has a name, or all characters outside it. -/
  | named (negated : Bool) (name : String)
  /-- A class that has a letter, or all characters outside it. -/
  | lettered (negated : Bool) (name : LetteredClass)
  | union (items : List CharSet)
  | combined (operator : SetOperator) (left right : CharSet)
  /-- A set in brackets, or all characters outside it. -/
  | bracketed (negated : Bool) (inside : CharSet)
deriving Repr

/-- What may be asked of a place in the text. -/
inductive Assertion where
  | lineStart
  | lineEnd
  | textStart
  | textEnd
  | wordBoundary
  | noWordBoundary
  | wordStart
  | wordEnd
deriving DecidableEq, Repr

/-- Whether an assertion is about words. -/
def Assertion.isOfWords : Assertion → Bool
  | lineStart | lineEnd | textStart | textEnd => false
  | wordBoundary | noWordBoundary | wordStart | wordEnd => true

/-- How often a part may come. -/
inductive Repetition where
  | atMostOnce
  | anyTimes
  | atLeastOnce
deriving DecidableEq, Repr

/-- The repetition of a sign. -/
def Repetition.ofChar? : Char → Option Repetition
  | '?' => some .atMostOnce
  | '*' => some .anyTimes
  | '+' => some .atLeastOnce
  | _ => none

/-- What a group is for. -/
inductive GroupKind where
  /-- What it matches is kept, under a name or without one. -/
  | capture (name : Option String)
  /-- It has modes of its own. -/
  | scope (changes : List ModeChange)
deriving DecidableEq, Repr

namespace GroupKind

/-- The modes that are switched inside a group. -/
def changes : GroupKind → List ModeChange
  | capture _ => []
  | scope changes => changes

/-- The name of a group, if it has one. -/
def names : GroupKind → List String
  | capture name => name.toList
  | scope _ => []

end GroupKind

/-- A regular expression. -/
inductive Pattern where
  | empty
  /-- Switches modes for the rest of the group. -/
  | modes (changes : List ModeChange)
  | char (c : PatternChar)
  | anyChar
  | assertion (a : Assertion)
  | lettered (negated : Bool) (name : LetteredClass)
  | set (chars : CharSet)
  | repeated (repetition : Repetition) (lazily : Bool) (part : Pattern)
  | group (kind : GroupKind) (inside : Pattern)
  | sequence (parts : List Pattern)
  | choice (branches : List Pattern)
deriving Repr

mutual

/-- How deep the parts of a set are nested. -/
def CharSet.depth : CharSet → Nat
  | .union items => CharSet.greatestDepth items + 1
  | .combined _ left right => max left.depth right.depth + 1
  | .bracketed _ inside => inside.depth + 1
  | _ => 0

/-- The same for the deepest one of some sets. -/
def CharSet.greatestDepth : List CharSet → Nat
  | [] => 0
  | set :: rest => max set.depth (CharSet.greatestDepth rest)

end

mutual

/-- How deep the parts of a pattern are nested. -/
def Pattern.depth : Pattern → Nat
  | .set chars => chars.depth
  | .repeated _ _ part => part.depth + 1
  | .group _ inside => inside.depth + 1
  | .sequence parts => Pattern.greatestDepth parts + 1
  | .choice branches => Pattern.greatestDepth branches + 1
  | _ => 0

/-- The same for the deepest one of some patterns. -/
def Pattern.greatestDepth : List Pattern → Nat
  | [] => 0
  | p :: rest => max p.depth (Pattern.greatestDepth rest)

end

/-- The union of some sets, in normal form. -/
def CharSet.ofItems : List CharSet → CharSet
  | [] => .empty
  | [item] => item
  | items => .union items

/-- A sequence of some parts, in normal form. -/
def Pattern.ofParts : List Pattern → Pattern
  | [] => .empty
  | [part] => part
  | parts => .sequence parts

/-- A choice of some branches, in normal form. -/
def Pattern.ofBranches : List Pattern → Pattern
  | [] => .empty
  | [branch] => branch
  | branches => .choice branches

/-- The set of what stands between brackets or outside them, if it may stand in both. -/
def CharSet.ofPattern? : Pattern → Option CharSet
  | .char c => some (.char c)
  | .lettered negated name => some (.lettered negated name)
  | _ => none

end Supervision

import Supervision.Decimal.Digits
import Supervision.Pattern
import Supervision.Text.Alphanumeric
import Supervision.Text.Blank

/-!
# Reading patterns

`Pattern.read?` reads a pattern. A group is read by `inside?`, part by part up to its closing parenthesis, and a set by
`setInside?`, item by item up to its closing bracket. Each step takes a character at least, so the readers need no more
steps than there are characters.
-/

namespace Supervision.Pattern

/-- A text without the white space and comments at its head; a comment goes from a number sign to the end of the line. -/
def dropBlanks (inComment : Bool) : List Char → List Char
  | [] => []
  | c :: rest =>
    if inComment then dropBlanks (c != '\n') rest
    else if Text.whiteSpace.has c then dropBlanks false rest
    else if c = '#' then dropBlanks true rest
    else c :: rest

/-- A text without what has no meaning at its head. -/
def skip (m : PatternModes) (s : List Char) : List Char :=
  if m.verbose then dropBlanks false s else s

/-- The character that tells whether a hyphen before it makes a range. White space and one number sign do not count, unless
there is nothing else. -/
def deciding? (m : PatternModes) (s : List Char) : Option Char :=
  if m.verbose then
    match s.dropWhile Text.whiteSpace.has with
    | '#' :: rest => (rest.dropWhile Text.whiteSpace.has).head?.or s.head?
    | rest => rest.head?.or s.head?
  else s.head?

/-- A number of hexadecimal digits. -/
def hexDigits? (m : PatternModes) : Nat → List Char → Option (List Char × List Char)
  | 0, s => some ([], s)
  | n + 1, s =>
    match skip m s with
    | [] => none
    | c :: rest =>
      if Decimal.isHexDigit c then (hexDigits? m n rest).map fun (digits, rest) => (c :: digits, rest) else none

/-- How many digits write the number of a character behind a letter. -/
def codeSize? : Char → Option Nat
  | 'x' => some 2
  | 'u' => some 4
  | 'U' => some 8
  | _ => none

/-- A character by its number. -/
def code? (m : PatternModes) (size : Nat) (s : List Char) : Option (Pattern × List Char) := do
  let (digits, rest) ← hexDigits? m size s
  let n := Decimal.numberIn 16 digits
  guard n.isValidChar
  return (.char ⟨Char.ofNat n, size == 2⟩, rest)

/-- What a character stands for behind a backslash. A character of ASCII that is no letter or digit stands for itself. -/
def escaped? : Char → Option Pattern
  | 'a' => some (.char ⟨'\x07', false⟩)
  | 'f' => some (.char ⟨'\x0c', false⟩)
  | 'n' => some (.char ⟨'\n', false⟩)
  | 'r' => some (.char ⟨'\r', false⟩)
  | 't' => some (.char ⟨'\t', false⟩)
  | 'v' => some (.char ⟨'\x0b', false⟩)
  | 'd' => some (.lettered false .digit)
  | 'D' => some (.lettered true .digit)
  | 's' => some (.lettered false .space)
  | 'S' => some (.lettered true .space)
  | 'w' => some (.lettered false .word)
  | 'W' => some (.lettered true .word)
  | 'A' => some (.assertion .textStart)
  | 'z' => some (.assertion .textEnd)
  | 'b' => some (.assertion .wordBoundary)
  | 'B' => some (.assertion .noWordBoundary)
  | '<' => some (.assertion .wordStart)
  | '>' => some (.assertion .wordEnd)
  | c => if c.toNat < 128 && !c.isAlphanum then some (.char ⟨c, false⟩) else none

/-- What follows a backslash. -/
def escape? (m : PatternModes) : List Char → Option (Pattern × List Char)
  | [] => none
  | c :: rest =>
    match codeSize? c with
    | some size => code? m size rest
    | none => (escaped? c).map (·, rest)

/-- The names of classes of characters. -/
def classNames : List String :=
  ["alnum", "alpha", "ascii", "blank", "cntrl", "digit", "graph", "lower", "print", "punct", "space", "upper", "word",
    "xdigit"]

/-- A class with a name, behind its bracket: the name stands between colons, perhaps with a circumflex before it. -/
def namedClass? : List Char → Option (CharSet × List Char)
  | ':' :: rest =>
    let (negated, rest) := match rest with
      | '^' :: rest => (true, rest)
      | rest => (false, rest)
    match rest.span (· != ':') with
    | (name, ':' :: ']' :: rest) =>
      if String.ofList name ∈ classNames then some (.named negated (String.ofList name), rest) else none
    | _ => none
  | _ => none

/-- A character of a set or what stands for one. -/
def setChar? (m : PatternModes) : List Char → Option (Pattern × List Char)
  | [] => none
  | c :: rest => if c = '\\' then escape? m rest else some (.char ⟨c, false⟩, rest)

/-- An item of a set: one character or class, or a range of characters. -/
def setItem? (m : PatternModes) (s : List Char) : Option (CharSet × List Char) := do
  let (low, rest) ← setChar? m s
  match skip m rest with
  | '-' :: behind =>
    if deciding? m behind = some ']' ∨ deciding? m behind = some '-' then
      return (← CharSet.ofPattern? low, '-' :: behind)
    else
      let (high, rest) ← setChar? m (skip m behind)
      match low, high with
      | .char low, .char high => if low.char ≤ high.char then some (.range low high, rest) else none
      | _, _ => none
  | rest => return (← CharSet.ofPattern? low, rest)

/-- As much of a set as was read: what is left of its last operator, and the items behind that one, the last one first. -/
structure SetDraft where
  left : Option (SetOperator × CharSet) := none
  items : List CharSet := []

namespace SetDraft

/-- A draft with one item more. -/
def add (draft : SetDraft) (item : CharSet) : SetDraft :=
  { draft with items := item :: draft.items }

/-- The set that was read. -/
def toSet (draft : SetDraft) : CharSet :=
  let right := CharSet.ofItems draft.items.reverse
  match draft.left with
  | none => right
  | some (operator, left) => .combined operator left right

/-- A draft with an operator behind it. -/
def operate (draft : SetDraft) (operator : SetOperator) : SetDraft :=
  { left := some (operator, draft.toSet) }

end SetDraft

/-- The operator at the head of a text. -/
def operator? : List Char → Option (SetOperator × List Char)
  | '&' :: '&' :: rest => some (.intersection, rest)
  | '-' :: '-' :: rest => some (.difference, rest)
  | '~' :: '~' :: rest => some (.symmetricDifference, rest)
  | _ => none

/-- Whether a set is negated, and what follows, behind its bracket. -/
def negation (m : PatternModes) (s : List Char) : Bool × List Char :=
  match skip m s with
  | '^' :: rest => (true, rest)
  | rest => (false, rest)

/-- Reads the inside of a set and its closing bracket. Hyphens at its head, or else a bracket there, stand for
themselves. -/
def setInside? (m : PatternModes) : Nat → Bool → SetDraft → List Char → Option (CharSet × List Char)
  | 0, _, _, _ => none
  | steps + 1, atHead, draft, s =>
    match skip m s with
    | [] => none
    | c :: rest =>
      if atHead && c == '-' then setInside? m steps true (draft.add (.char ⟨c, false⟩)) rest
      else if c = ']' then
        if atHead && draft.items.isEmpty then setInside? m steps false (draft.add (.char ⟨c, false⟩)) rest
        else some (draft.toSet, rest)
      else if c = '[' then
        match namedClass? rest with
        | some (item, rest) => setInside? m steps false (draft.add item) rest
        | none => do
          let (negated, rest) := negation m rest
          let (inner, rest) ← setInside? m steps true {} rest
          setInside? m steps false (draft.add (.bracketed negated inner)) rest
      else
        match operator? (c :: rest) with
        | some (operator, rest) => setInside? m steps false (draft.operate operator) rest
        | none => do
          let (item, rest) ← setItem? m (c :: rest)
          setInside? m steps false (draft.add item) rest

/-- Reads a set behind its bracket. -/
def set? (m : PatternModes) (s : List Char) : Option (Pattern × List Char) := do
  let (negated, rest) := negation m s
  let (inner, rest) ← setInside? m (rest.length + 1) true {} rest
  return (.set (.bracketed negated inner), rest)

/-- The mode changes that a word writes, if it names no mode twice: modes before a hyphen are switched on, those behind it
off. -/
def modeChanges? (word : List Char) : Option (List ModeChange) := do
  guard word.Nodup
  let (on, off) := word.span (· != '-')
  guard (off ≠ ['-'])
  let on ← on.mapM PatternMode.ofChar?
  let off ← (off.drop 1).mapM PatternMode.ofChar?
  return on.map (⟨·, true⟩) ++ off.map (⟨·, false⟩)

/-- Whether a character may stand in the name of a group. -/
def isNameChar (atHead : Bool) (c : Char) : Bool :=
  if atHead then c == '_' || Text.alphabetic.has c
  else c == '_' || c == '.' || c == '[' || c == ']' || Text.isAlphanumeric c

/-- What follows an opening parenthesis. -/
inductive Opening where
  | modes (changes : List ModeChange)
  | group (kind : GroupKind)

/-- A group with a name, if no other one has it. -/
def namedGroup? (names : List String) (s : List Char) : Option (Opening × List Char) :=
  match s.span (· != '>') with
  | (c :: word, '>' :: rest) =>
    let name := String.ofList (c :: word)
    if isNameChar true c && word.all (isNameChar false) && !names.contains name then
      some (.group (.capture (some name)), rest)
    else none
  | _ => none

/-- What an opening parenthesis begins, behind it. -/
def opening? (names : List String) : List Char → Option (Opening × List Char)
  | '?' :: 'P' :: '<' :: rest => namedGroup? names rest
  | '?' :: '<' :: rest => namedGroup? names rest
  | '?' :: rest =>
    match rest.span fun c => c != ':' && c != ')' with
    | (word, ':' :: rest) => (modeChanges? word).map fun changes => (.group (.scope changes), rest)
    | (word, ')' :: rest) => if word.isEmpty then none else (modeChanges? word).map fun changes => (.modes changes, rest)
    | _ => none
  | rest => some (.group (.capture none), rest)

/-- As much of a group as was read: its finished branches and the parts of the next one, the last ones first. -/
structure Draft where
  branches : List Pattern := []
  parts : List Pattern := []

namespace Draft

/-- A draft with one part more. -/
def add (draft : Draft) (part : Pattern) : Draft :=
  { draft with parts := part :: draft.parts }

/-- A draft with another branch begun. -/
def branch (draft : Draft) : Draft :=
  { branches := ofParts draft.parts.reverse :: draft.branches }

/-- The pattern that was read. -/
def toPattern (draft : Draft) : Pattern :=
  ofBranches draft.branch.branches.reverse

/-- A draft with its last part repeated, if there is something to repeat. -/
def repeat? (draft : Draft) (repetition : Repetition) (lazily : Bool) : Option Draft :=
  match draft.parts with
  | [] => none
  | .modes _ :: _ => none
  | part :: parts => some { draft with parts := .repeated repetition lazily part :: parts }

end Draft

/-- A part of a pattern that is no group, without its repetition. -/
def part? (m : PatternModes) : List Char → Option (Pattern × List Char)
  | [] => none
  | c :: rest =>
    match c with
    | '[' => set? m rest
    | '\\' => escape? m rest
    | '.' => some (.anyChar, rest)
    | '^' => some (.assertion .lineStart, rest)
    | '$' => some (.assertion .lineEnd, rest)
    | '\x7b' => none
    | c => some (.char ⟨c, false⟩, rest)

/-- Where a reader is: what is left to read, the modes there, and the names that groups have. -/
structure Place where
  rest : List Char
  modes : PatternModes := {}
  names : List String := []

/-- Reads the inside of a group, up to its closing parenthesis or the end of the text. -/
def inside? : Nat → Draft → Place → Option (Pattern × Place)
  | 0, _, _ => none
  | steps + 1, draft, place =>
    match skip place.modes place.rest with
    | [] => some (draft.toPattern, { place with rest := [] })
    | c :: rest =>
      if c = ')' then some (draft.toPattern, { place with rest := c :: rest })
      else if c = '|' then inside? steps draft.branch { place with rest }
      else if c = '(' then do
        let (opening, rest) ← opening? place.names (skip place.modes rest)
        match opening with
        | .modes changes =>
          inside? steps (draft.add (.modes changes)) { place with rest, modes := place.modes.changeAll changes }
        | .group kind =>
          let (inner, after) ← inside? steps {}
            { rest, modes := place.modes.changeAll kind.changes, names := kind.names ++ place.names }
          match after.rest with
          | ')' :: rest => inside? steps (draft.add (.group kind inner)) { after with rest, modes := place.modes }
          | _ => none
      else
        match Repetition.ofChar? c with
        | some repetition =>
          let (lazily, rest) := match rest with
            | '?' :: rest => (true, rest)
            | rest => (false, rest)
          (draft.repeat? repetition lazily).bind fun draft => inside? steps draft { place with rest }
        | none => do
          let (part, rest) ← part? place.modes (c :: rest)
          inside? steps (draft.add part) { place with rest }

/-- Reads a pattern. -/
def read? (s : List Char) : Option Pattern :=
  match inside? (s.length + 1) {} { rest := s } with
  | some (p, { rest := [], .. }) => some p
  | _ => none

end Supervision.Pattern

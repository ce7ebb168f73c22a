import Supervision.Toml.StringLiteral
import Supervision.Toml.Scalar
import Supervision.Toml.Tree

/-!
# Keys, values and statements of TOML

A document is a list of statements: headers, and keys with their values. The readers here give for the head of a text what
it says and the text after it. Values and keys nest less than `nestingLimit` deep.
-/

namespace Supervision.Toml

/-- Values in brackets and keys with dots stay below this depth. -/
def nestingLimit : Nat := 80

/-- A character of a key without quotes. -/
def isBareKeyChar (c : Char) : Bool :=
  c.isAlphanum || c == '_' || c == '-'

/-- Reads one key. -/
def key? (s : List Char) : Option (String × List Char) :=
  match s.takeWhile isBareKeyChar with
  | [] => (lineString? s).map fun (k, rest) => (String.ofList k, rest)
  | k => some (String.ofList k, s.dropWhile isBareKeyChar)

/-- Reads keys with dots between them, and the blanks around them; the number bounds how many. -/
def path? : Nat → List Char → Option (List String × List Char)
  | 0, _ => none
  | n + 1, s => do
    let (k, rest) ← key? (skipBlanks s)
    match skipBlanks rest with
    | '.' :: rest =>
      let (ks, rest) ← path? n rest
      return (k :: ks, rest)
    | rest => return ([k], rest)

/-- Passes over a character. -/
def expect? (c : Char) : List Char → Option (List Char)
  | [] => none
  | d :: rest => if d = c then some rest else none

/-- The table of keys and values written in one piece. -/
def inlineTable? (pairs : List (List String × Value)) : Option Value :=
  (pairs.foldlM (fun (entries : Entries) (path, v) => entries.assign path v) []).map fun entries =>
    .table (tableOf entries)

mutual

/-- Reads a value at a depth of nesting; the first number bounds the steps. -/
def value? : Nat → Nat → List Char → Option (Value × List Char)
  | 0, _, _ => none
  | _ + 1, _, [] => none
  | fuel + 1, depth, c :: rest =>
    if c = '[' then
      if depth + 1 < nestingLimit then (items? fuel (depth + 1) rest).map fun (vs, rest) => (.array vs, rest) else none
    else if c = '\x7b' then
      if depth + 1 < nestingLimit then do
        let (pairs, rest) ← fields? fuel (depth + 1) rest
        return (← inlineTable? pairs, rest)
      else none
    else if c = '"' ∨ c = apostrophe then
      (string? (c :: rest)).map fun (s, rest) => (.string (String.ofList s), rest)
    else scalar? (c :: rest)

/-- Reads the items of an array up to its closing bracket. -/
def items? : Nat → Nat → List Char → Option (List Value × List Char)
  | 0, _, _ => none
  | fuel + 1, depth, s => do
    match ← skipLines? false s with
    | ']' :: rest => return ([], rest)
    | s =>
      let (v, rest) ← value? fuel depth s
      match ← skipLines? false rest with
      | ',' :: rest =>
        let (vs, rest) ← items? fuel depth rest
        return (v :: vs, rest)
      | ']' :: rest => return ([v], rest)
      | _ => none

/-- Reads the keys and values of a table in braces up to its closing brace. -/
def fields? : Nat → Nat → List Char → Option (List (List String × Value) × List Char)
  | 0, _, _ => none
  | fuel + 1, depth, s =>
    match skipBlanks s with
    | '\x7d' :: rest => some ([], rest)
    | s => moreFields? fuel depth s

/-- Reads at least one key with its value, and all others up to the closing brace. -/
def moreFields? : Nat → Nat → List Char → Option (List (List String × Value) × List Char)
  | 0, _, _ => none
  | fuel + 1, depth, s => do
    let (path, rest) ← path? (nestingLimit - 1) s
    let (v, rest) ← value? fuel depth (skipBlanks (← expect? '=' rest))
    match skipBlanks rest with
    | ',' :: rest =>
      let (more, rest) ← moreFields? fuel depth rest
      return ((path, v) :: more, rest)
    | '\x7d' :: rest => return ([(path, v)], rest)
    | _ => none

end

/-- A statement of a document. -/
inductive Statement where
  | header (path : List String)
  | arrayHeader (path : List String)
  | assignment (path : List String) (v : Value)
deriving Repr

/-- Reads a header that began with a bracket, up to the end of its line. -/
def header? (s : List Char) : Option (Statement × List Char) := do
  let (path, rest) ← path? (nestingLimit - 1) s
  let rest ← restOfLine? (← expect? ']' rest)
  return (.header path, rest)

/-- Reads a header that began with two brackets, up to the end of its line. -/
def arrayHeader? (s : List Char) : Option (Statement × List Char) := do
  let (path, rest) ← path? (nestingLimit - 1) s
  let rest ← restOfLine? (← expect? ']' (← expect? ']' rest))
  return (.arrayHeader path, rest)

/-- Reads a key with its value, up to the end of their line. -/
def assignment? (s : List Char) : Option (Statement × List Char) := do
  let (path, rest) ← path? (nestingLimit - 1) s
  let start := skipBlanks (← expect? '=' rest)
  let (v, rest) ← value? (2 * start.length + 2) 0 start
  return (.assignment path v, ← restOfLine? rest)

/-- Reads the statement on a line that has one. -/
def statement? : List Char → Option (Statement × List Char)
  | '[' :: '[' :: rest => arrayHeader? rest
  | '[' :: rest => header? rest
  | s => assignment? s

/-- Reads statements to the end of a text; the number bounds how many lines. -/
def statements? : Nat → List Char → Option (List Statement)
  | 0, _ => none
  | n + 1, s =>
    match skipBlanks s with
    | [] => some []
    | c :: rest =>
      if c = '#' ∨ c = '\n' ∨ c = '\r' then do
        statements? n (← restOfLine? (c :: rest))
      else do
        let (statement, rest) ← statement? (c :: rest)
        return statement :: (← statements? n rest)

end Supervision.Toml

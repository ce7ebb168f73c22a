import Supervision.Decimal.Digits
import Supervision.Toml.Blank

/-!
# String literals of TOML

A string is written in one of four ways: between double quotes, where a backslash begins an escape, or between
apostrophes, where it does not; and either between single marks on one line or between triple marks on many. `string?`
reads a literal at the head of a text.
-/

namespace Supervision.Toml

/-- A mark that delimits a literal without escapes. -/
def apostrophe : Char := '\x27'

/-- The character of a number, unless it is no character. -/
def validChar? (n : Nat) : Option Char :=
  if n.isValidChar then some (Char.ofNat n) else none

/-- The character that hexadecimal digits name. -/
def hexChar? (s : List Char) : Option Char :=
  if s.all Decimal.isHexDigit then validChar? (Decimal.numberIn 16 s) else none

/-- The character that a letter behind a backslash stands for. -/
def escape? : Char → Option Char
  | 'b' => some (Char.ofNat 8)
  | 't' => some '\t'
  | 'n' => some '\n'
  | 'f' => some (Char.ofNat 12)
  | 'r' => some '\r'
  | '"' => some '"'
  | '\\' => some '\\'
  | _ => none

/-- Puts a character in front of the string of a literal that is read further on. -/
def consChar (c : Char) (r : Option (List Char × List Char)) : Option (List Char × List Char) :=
  r.map fun (s, rest) => (c :: s, rest)

/-- The rest of a string between double quotes. -/
def basic? : List Char → Option (List Char × List Char)
  | [] => none
  | c :: rest =>
    if c = '"' then some ([], rest)
    else if c = '\\' then
      match rest with
      | 'u' :: a :: b :: c :: d :: tail => (hexChar? [a, b, c, d]).bind fun x => consChar x (basic? tail)
      | 'U' :: a :: b :: c :: d :: e :: f :: g :: h :: tail =>
        (hexChar? [a, b, c, d, e, f, g, h]).bind fun x => consChar x (basic? tail)
      | e :: tail => (escape? e).bind fun x => consChar x (basic? tail)
      | [] => none
    else if isControl c then none
    else consChar c (basic? rest)

/-- The rest of a string between apostrophes. -/
def literal? : List Char → Option (List Char × List Char)
  | [] => none
  | c :: rest =>
    if c = apostrophe then some ([], rest)
    else if isControl c then none
    else consChar c (literal? rest)

/-- Where the reader of a string on many lines stands with a backslash at the end of a line: none is open, only blanks may
come before the end of the line, or blanks and line ends are passed over. -/
inductive Fold where
  | none
  | toLineEnd
  | blanks
deriving DecidableEq

/-- The end of a string between triple marks, after the first of the marks: two more, and before them up to two that belong
to the string. -/
def closing? (mark : Char) : List Char → Option (List Char × List Char)
  | a :: b :: rest =>
    if a = mark ∧ b = mark then
      match rest with
      | c :: d :: tail =>
        if c = mark then if d = mark then some ([mark, mark], tail) else some ([mark], d :: tail)
        else some ([], c :: d :: tail)
      | [c] => if c = mark then some ([mark], []) else some ([], [c])
      | [] => some ([], [])
    else none
  | _ => none

/-- The rest of a string between triple double quotes. A line end in it is a line feed, and a backslash at the end of a line
takes away all blanks and line ends after it. -/
def multiBasic? : Fold → List Char → Option (List Char × List Char)
  | _, [] => none
  | fold, c :: rest =>
    if c = '\n' then
      if fold = .none then consChar '\n' (multiBasic? .none rest) else multiBasic? .blanks rest
    else if c = '\r' then
      match rest with
      | '\n' :: tail => if fold = .none then consChar '\n' (multiBasic? .none tail) else multiBasic? .blanks tail
      | _ => none
    else if fold = .toLineEnd then
      if isBlank c then multiBasic? .toLineEnd rest else none
    else if c = '"' then
      match closing? '"' rest with
      | some last => some last
      | none => consChar '"' (multiBasic? .none rest)
    else if c = '\\' then
      match rest with
      | 'u' :: a :: b :: c :: d :: tail => (hexChar? [a, b, c, d]).bind fun x => consChar x (multiBasic? .none tail)
      | 'U' :: a :: b :: c :: d :: e :: f :: g :: h :: tail =>
        (hexChar? [a, b, c, d, e, f, g, h]).bind fun x => consChar x (multiBasic? .none tail)
      | '\n' :: tail => multiBasic? .blanks tail
      | '\r' :: '\n' :: tail => multiBasic? .blanks tail
      | e :: tail =>
        if isBlank e then multiBasic? .toLineEnd tail
        else (escape? e).bind fun x => consChar x (multiBasic? .none tail)
      | [] => none
    else if fold = .blanks ∧ isBlank c then multiBasic? .blanks rest
    else if isControl c then none
    else consChar c (multiBasic? .none rest)

/-- The rest of a string between triple apostrophes. A line end in it is a line feed. -/
def multiLiteral? : List Char → Option (List Char × List Char)
  | [] => none
  | c :: rest =>
    if c = '\n' then consChar '\n' (multiLiteral? rest)
    else if c = '\r' then
      match rest with
      | '\n' :: tail => consChar '\n' (multiLiteral? tail)
      | _ => none
    else if c = apostrophe then
      match closing? apostrophe rest with
      | some last => some last
      | none => consChar apostrophe (multiLiteral? rest)
    else if isControl c then none
    else consChar c (multiLiteral? rest)

/-- Reads a string on one line. -/
def lineString? : List Char → Option (List Char × List Char)
  | c :: rest =>
    if c = '"' then basic? rest
    else if c = apostrophe then literal? rest
    else none
  | [] => none

/-- Reads a string of any form. A line end right behind triple marks does not belong to the string. -/
def string? : List Char → Option (List Char × List Char)
  | a :: b :: c :: rest =>
    if a = '"' ∧ b = '"' ∧ c = '"' then multiBasic? .none (dropLineEnd rest)
    else if a = apostrophe ∧ b = apostrophe ∧ c = apostrophe then multiLiteral? (dropLineEnd rest)
    else lineString? (a :: b :: c :: rest)
  | s => lineString? s

end Supervision.Toml

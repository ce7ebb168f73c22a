import Supervision.Toml.StringLiteral

/-!
# Writing strings of TOML

A string is written in the plainest of five forms that can hold it: between double quotes, apostrophes, triple double
quotes or triple apostrophes if nothing in it needs an escape that the form lacks, and otherwise between double quotes
with escapes, on as many lines as the string has.
-/

namespace Supervision.Toml

/-- The length of the longest run of a character, given the length of the run under way. -/
def longestRunFrom (mark : Char) : Nat → List Char → Nat
  | n, [] => n
  | n, c :: rest => if c = mark then longestRunFrom mark (n + 1) rest else max n (longestRunFrom mark 0 rest)

/-- The length of the longest run of a character in a text. -/
def longestRun (mark : Char) (s : List Char) : Nat :=
  longestRunFrom mark 0 s

/-- The forms of a string literal. -/
inductive Form where
  | basic
  | literal
  | multiBasic
  | multiLiteral
deriving DecidableEq, Repr

/-- Whether a string has a control character that no literal form can hold. -/
def hasControl (s : List Char) : Bool :=
  s.any fun c => isControl c && c != '\n'

/-- The plainest form that can hold a string. -/
def formFor (s : List Char) : Form :=
  let control := hasControl s
  let backslash := s.contains '\\'
  let lines := s.contains '\n'
  if !control && !backslash && longestRun '"' s == 0 && !lines then .basic
  else if !control && longestRun apostrophe s == 0 && !lines then .literal
  else if !control && !backslash && decide (longestRun '"' s ≤ 2) then .multiBasic
  else if !control && decide (longestRun apostrophe s ≤ 2) then .multiLiteral
  else if lines then .multiBasic
  else .basic

/-- A hexadecimal digit with a capital letter. -/
def capitalDigit (n : Nat) : Char :=
  if n < 10 then Char.ofNat (48 + n) else Char.ofNat (55 + n)

/-- Four hexadecimal digits. -/
def fourDigits (n : Nat) : List Char :=
  [n / 4096 % 16, n / 256 % 16, n / 16 % 16, n % 16].map capitalDigit

/-- The escape of a character between double quotes, if it needs one. A line feed needs one on one line only. -/
def escaped? (onOneLine : Bool) (c : Char) : Option (List Char) :=
  if c = '\\' then some ['\\', '\\']
  else if c = '\t' then some ['\\', 't']
  else if c = '\n' then if onOneLine then some ['\\', 'n'] else none
  else if c = '\r' then some ['\\', 'r']
  else if c.toNat = 8 then some ['\\', 'b']
  else if c.toNat = 12 then some ['\\', 'f']
  else if isControl c then some ('\\' :: 'u' :: fourDigits c.toNat)
  else none

/-- A string between double quotes on one line, without the quotes. -/
def basicBody : List Char → List Char
  | [] => []
  | c :: rest =>
    if c = '"' then '\\' :: '"' :: basicBody rest
    else (escaped? true c).getD [c] ++ basicBody rest

/-- A string between triple double quotes, without the quotes. The number counts the quotes in a run; the third of them is
escaped, and begins the count anew. -/
def multiBasicBody : Nat → List Char → List Char
  | _, [] => []
  | quotes, c :: rest =>
    if c = '"' then
      if quotes = 2 then '\\' :: '"' :: multiBasicBody 0 rest else '"' :: multiBasicBody (quotes + 1) rest
    else (escaped? false c).getD [c] ++ multiBasicBody 0 rest

/-- A string between triple marks: where it has lines, the first of them begins on a line of its own. -/
def onLines (mark : Char) (s body : List Char) : List Char :=
  [mark, mark, mark] ++ (if s.contains '\n' then ['\n'] else []) ++ body ++ [mark, mark, mark]

/-- A string literal. -/
def written (s : List Char) : List Char :=
  match formFor s with
  | .basic => '"' :: basicBody s ++ ['"']
  | .literal => apostrophe :: s ++ [apostrophe]
  | .multiBasic => onLines '"' s (multiBasicBody 0 s)
  | .multiLiteral => onLines apostrophe s s

end Supervision.Toml

import Supervision.Event
import Supervision.Text.Pieces

/-!
# Lines of the log

An event is written as its time, its level and its text, in a file also its target. Control characters that a terminal
would obey are written as escapes (`harmless`). A line feed is not one of them, so that a text may go on over several lines.
Whoever reads the output line by line sees entries of the log, which begin with a time and a level, and other lines, such as
those that a text goes on over: a `LogLine` is what is seen, and times are left out of it.
-/

namespace Supervision

/-- A line of an output that holds a log. -/
inductive LogLine where
  /-- An entry of the log without its time. -/
  | entry (text : String)
  | other (text : String)
deriving DecidableEq, Repr

namespace LogLine

/-- The text of a line. -/
def text : LogLine → String
  | entry text => text
  | other text => text

/-- The text of an entry. -/
def entry? : LogLine → Option String
  | entry text => some text
  | other _ => none

/-- The text of a line that is no entry. -/
def other? : LogLine → Option String
  | entry _ => none
  | other text => some text

/-- Whether a text has the shape of a time. -/
def isTime (s : List Char) : Bool :=
  let shape := s.map fun c => if c.isDigit then '0' else c
  String.ofList (shape.take 20) == "0000-00-00T00:00:00." && (shape.drop 20).dropWhile (· == '0') == ['Z']

/-- The words at the head of entries. -/
def levels : List String :=
  ["ERROR", "WARN", "INFO", "DEBUG", "TRACE"]

/-- Whether a character parts the words at the head of an entry. -/
def isGap (c : Char) : Bool :=
  c == ' '

/-- What is seen in a line of text. -/
def ofText (line : String) : LogLine :=
  let time := line.toList.takeWhile (!isGap ·)
  let rest := (line.toList.dropWhile (!isGap ·)).dropWhile isGap
  let level := String.ofList (rest.takeWhile (!isGap ·))
  if isTime time && levels.contains level && (rest.dropWhile (!isGap ·)).head? == some ' ' then .entry (String.ofList rest)
  else .other line

/-- The lines of a text. One that is not the last may end with a carriage return before its line feed. -/
def split (text : String) : List String :=
  (Text.cut '\n' text.toList).map fun line =>
    String.ofList (if line.getLast? = some '\r' then line.dropLast else line)

/-- Whether a terminal obeys a control character. -/
def isObeyed (c : Char) : Bool :=
  c.toNat == 0x07 || c.toNat == 0x08 || c.toNat == 0x0c || c.toNat == 0x1b || c.toNat == 0x7f

/-- A character of the text of an event, as it is written. -/
def harmlessChar (c : Char) : List Char :=
  if isObeyed c then
    ['\\', 'x', Nat.digitChar (c.toNat / 16), Nat.digitChar (c.toNat % 16)]
  else if 0x80 ≤ c.toNat ∧ c.toNat ≤ 0x9f then
    ['\\', 'u', '\x7b', Nat.digitChar (c.toNat / 16), Nat.digitChar (c.toNat % 16), '\x7d']
  else [c]

/-- The text of an event, as it is written. -/
def harmless (text : String) : String :=
  String.ofList (text.toList.flatMap harmlessChar)

/-- The lines of an entry. -/
def ofEntry (text : String) : List LogLine :=
  match split (harmless text) with
  | [] => []
  | first :: more => .entry first :: more.map ofText

/-- The lines that are seen when lines are written behind a text: what the text does not finish goes on with the first of
them. -/
def behind (text : String) (lines : List LogLine) : List LogLine :=
  let before := split text
  if before.getLast? = some "" then before.dropLast.map ofText ++ lines else before.map ofText ++ lines.drop 1

end LogLine

namespace Event

/-- The lines of an event in the standard output. -/
def lines (event : Event) : List LogLine :=
  LogLine.ofEntry event.line

/-- The lines of an event in a file. -/
def targetLines (event : Event) : List LogLine :=
  LogLine.ofEntry event.targetLine

end Event

end Supervision

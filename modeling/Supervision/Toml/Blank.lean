/-!
# Blanks, line ends and comments of TOML

A line ends with a line feed, alone or after a carriage return. A comment runs to the end of its line and holds no control
character but the tab.
-/

namespace Supervision.Toml

/-- A blank within a line. -/
def isBlank (c : Char) : Bool :=
  c == ' ' || c == '\t'

/-- A control character other than the tab. -/
def isControl (c : Char) : Bool :=
  (c.toNat < 0x20 && c != '\t') || c.toNat == 0x7f

/-- The text after its leading blanks. -/
def skipBlanks (s : List Char) : List Char :=
  s.dropWhile isBlank

/-- The text after the end of a line, which may be the end of the text. -/
def lineEnd? : List Char → Option (List Char)
  | [] => some []
  | '\n' :: rest => some rest
  | '\r' :: '\n' :: rest => some rest
  | _ => none

/-- The text after a line of which nothing but blanks and a comment is left. -/
def restOfLine? (s : List Char) : Option (List Char) :=
  match skipBlanks s with
  | '#' :: rest => lineEnd? (rest.dropWhile fun c => !isControl c)
  | rest => lineEnd? rest

/-- The text after blanks, line ends and comments; the flag tells whether it begins inside a comment. -/
def skipLines? : Bool → List Char → Option (List Char)
  | _, '\n' :: rest => skipLines? false rest
  | _, '\r' :: '\n' :: rest => skipLines? false rest
  | true, c :: rest => if isControl c then none else skipLines? true rest
  | true, [] => none
  | false, '#' :: rest => skipLines? true rest
  | false, c :: rest => if isBlank c then skipLines? false rest else some (c :: rest)
  | false, [] => some []

/-- The text without a line end at its head. -/
def dropLineEnd : List Char → List Char
  | '\n' :: rest => rest
  | '\r' :: '\n' :: rest => rest
  | s => s

end Supervision.Toml

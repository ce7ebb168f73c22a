import Supervision.Decimal.Digits
import Supervision.Toml.Value

/-!
# Numbers, dates and booleans of TOML

A value that is neither quoted nor bracketed is one unbroken word. `scalar?` tells which value a word is; a date with a
blank before its time is the one value of two words.
-/

namespace Supervision.Toml

open Decimal

/-- A character of such a word. -/
def isWordChar (c : Char) : Bool :=
  c.isAlphanum || c == '_' || c == '+' || c == '-' || c == '.' || c == ':'

/-- Digits of which any two may have one underscore between them. -/
def grouped? (isDigit : Char → Bool) : List Char → Option (List Char)
  | [] => none
  | [c] => if isDigit c then some [c] else none
  | c :: d :: rest =>
    if isDigit c then
      (if d = '_' then grouped? isDigit rest else grouped? isDigit (d :: rest)).map (c :: ·)
    else none

/-- Decimal digits that write a number: none stands behind a leading zero. -/
def decimal? (s : List Char) : Option (List Char) :=
  match grouped? Char.isDigit s with
  | some ('0' :: _ :: _) => none
  | r => r

/-- An integer of 64 bits. -/
def within64 (n : Int) : Option Int :=
  if -0x8000000000000000 ≤ n ∧ n < 0x8000000000000000 then some n else none

/-- An integer: decimal with a sign or without, or in one of three other bases without one. -/
def integer? (word : List Char) : Option Int :=
  match word with
  | '0' :: 'x' :: rest =>
    (grouped? isHexDigit rest).bind fun s => within64 (numberIn 16 s)
  | '0' :: 'o' :: rest => (grouped? (fun c => '0' ≤ c && c ≤ '7') rest).bind fun s => within64 (numberIn 8 s)
  | '0' :: 'b' :: rest => (grouped? (fun c => c == '0' || c == '1') rest).bind fun s => within64 (numberIn 2 s)
  | _ =>
    let (negative, rest) := unsigned word
    (decimal? rest).bind fun s => within64 (if negative then -(numberIn 10 s : Int) else numberIn 10 s)

/-- The exponent part of a number, or zero where there is none. -/
def exponent? : List Char → Option Int
  | [] => some 0
  | _ :: rest =>
    let (negative, digits) := unsigned rest
    (grouped? Char.isDigit digits).map fun s => if negative then -(numberIn 10 s : Int) else numberIn 10 s

/-- The fraction part of a number, or no digits where there is none. -/
def fraction? : List Char → Option (List Char)
  | [] => some []
  | _ :: rest => grouped? Char.isDigit rest

/-- A floating point number: it has a fraction or an exponent, or is one of the two special words. One that is too great
for the format is refused; one that is too small is infinite. -/
def float? (word : List Char) : Option Binary64 :=
  let (negative, rest) := unsigned word
  if rest = ['i', 'n', 'f'] then some (.infinite negative)
  else if rest = ['n', 'a', 'n'] then some .nan
  else
    let (mantissa, power) := rest.span fun c => c != 'e' && c != 'E'
    let (whole, fraction) := mantissa.span (· != '.')
    if fraction = [] ∧ power = [] then none
    else do
      let whole ← decimal? whole
      let fraction ← fraction? fraction
      let power ← exponent? power
      let x := Binary64.ofDecimal negative (numberIn 10 (whole ++ fraction)) (power - fraction.length)
      if x = .infinite false then none else some x

/-- A number of two digits between two bounds. -/
def twoDigits? (low high : Nat) (a b : Char) : Option Nat :=
  if a.isDigit && b.isDigit then
    let n := numberIn 10 [a, b]
    if low ≤ n ∧ n ≤ high then some n else none
  else none

/-- How many days a month has. -/
def daysIn (year month : Nat) : Nat :=
  if month = 2 then
    if year % 4 = 0 ∧ (year % 100 ≠ 0 ∨ year % 400 = 0) then 29 else 28
  else if month = 4 ∨ month = 6 ∨ month = 9 ∨ month = 11 then 30
  else 31

/-- Whether the first ten characters of a word are a date. -/
def startsWithDate (word : List Char) : Bool :=
  match word with
  | y1 :: y2 :: y3 :: y4 :: '-' :: m1 :: m2 :: '-' :: d1 :: d2 :: _ =>
    [y1, y2, y3, y4].all Char.isDigit &&
      match twoDigits? 1 12 m1 m2 with
      | some month => (twoDigits? 1 (daysIn (numberIn 10 [y1, y2, y3, y4]) month) d1 d2).isSome
      | none => false
  | _ => false

/-- The normal text of a distance from universal time; none is a text too. -/
def offset? : List Char → Option (List Char)
  | [] => some []
  | ['Z'] | ['z'] => some ['Z']
  | [sign, h1, h2, ':', m1, m2] => do
    guard (sign = '+' ∨ sign = '-')
    let h ← twoDigits? 0 23 h1 h2
    let m ← twoDigits? 0 59 m1 m2
    return (if h = 0 ∧ m = 0 then '+' else sign) :: [h1, h2, ':', m1, m2]
  | _ => none

/-- The normal text of the time of day at the head of a text, and what follows it: nine places of the fraction count, and
zeros at its end are left out. -/
def timeOfDay? (s : List Char) : Option (List Char × List Char) :=
  match s with
  | h1 :: h2 :: ':' :: m1 :: m2 :: ':' :: s1 :: s2 :: rest => do
    let _ ← twoDigits? 0 23 h1 h2
    let _ ← twoDigits? 0 59 m1 m2
    let _ ← twoDigits? 0 60 s1 s2
    let (fraction, rest) ← match rest with
      | '.' :: tail =>
        match tail.span Char.isDigit with
        | ([], _) => none
        | (digits, rest) => some ((((digits.take 9).reverse.dropWhile (· = '0')).reverse), rest)
      | rest => some ([], rest)
    return ([h1, h2, ':', m1, m2, ':', s1, s2] ++ (if fraction = [] then [] else '.' :: fraction), rest)
  | _ => none

/-- The normal text of a time of day with what follows it. -/
def time? (withOffset : Bool) (word : List Char) : Option (List Char) := do
  let (time, rest) ← timeOfDay? word
  let offset ← if withOffset then offset? rest else if rest = [] then some [] else none
  return time ++ offset

/-- The normal text of a date or a time or both; a `T` stands between the two, or in a text that is no word a blank. -/
def dateTime? (s : List Char) : Option (List Char) :=
  if startsWithDate s then
    match s.drop 10 with
    | [] => some s
    | c :: rest =>
      if c = 'T' ∨ c = 't' ∨ c = ' ' then (time? true rest).map (s.take 10 ++ 'T' :: ·) else none
  else time? false s

/-- The value that a word is. -/
def word? (word : List Char) : Option Value :=
  if word = ['t', 'r', 'u', 'e'] then some (.boolean true)
  else if word = ['f', 'a', 'l', 's', 'e'] then some (.boolean false)
  else
    match dateTime? word with
    | some s => some (.dateTime (String.ofList s))
    | none =>
      match float? word with
      | some x => some (.float x)
      | none => (integer? word).map .integer

/-- Reads a value that is neither quoted nor bracketed. A digit one blank behind a date begins its time. -/
def scalar? (s : List Char) : Option (Value × List Char) :=
  let word := s.takeWhile isWordChar
  match s.dropWhile isWordChar with
  | ' ' :: c :: rest =>
    if c.isDigit && startsWithDate word && word.length == 10 then do
      let both ← dateTime? (word ++ ' ' :: (c :: rest).takeWhile isWordChar)
      return (.dateTime (String.ofList both), (c :: rest).dropWhile isWordChar)
    else (word? word).map (·, ' ' :: c :: rest)
  | rest => (word? word).map (·, rest)

end Supervision.Toml

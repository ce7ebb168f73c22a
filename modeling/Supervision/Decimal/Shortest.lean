import Supervision.Decimal.Binary64

/-!
# The shortest decimal that reads back

A floating point number is written with the fewest digits that read back as the same number, and of those with the ones
nearest to it, a tie going up. All points that read back as `m * 2 ^ q` lie between the midpoints to its neighbours, the
midpoints themselves among them exactly if `m` is even.
-/

namespace Supervision.Decimal

/-- A positive number with its midpoints to the neighbours, all over one denominator. -/
structure Interval where
  low : Nat
  value : Nat
  high : Nat
  den : Nat
  closed : Bool

namespace Interval

/-- The points that read back as `m * 2 ^ q`. The lower neighbour of a power of two is half as far as the upper one,
unless the exponent is the least one. -/
def around (m : Nat) (q : Int) : Interval :=
  let (up, down) := twoPow (q - 2)
  let below := if m = 0x10000000000000 ∧ Binary64.minExponent < q then 1 else 2
  ⟨(4 * m - below) * up, 4 * m * up, (4 * m + 2) * up, down, m % 2 == 0⟩

/-- Whether `c * 10 ^ p` reads back as the number. -/
def has (i : Interval) (c : Nat) (p : Int) : Bool :=
  let point := c * Nat.pow 10 p.toNat * i.den
  let unit := Nat.pow 10 (-p).toNat
  if i.closed then decide (i.low * unit ≤ point ∧ point ≤ i.high * unit)
  else decide (i.low * unit < point ∧ point < i.high * unit)

/-- The greatest `e` with `10 ^ e` at most the number. -/
def floorLog10 (i : Interval) : Int :=
  if i.den ≤ i.value then
    (Nat.toDigits 10 (i.value / i.den)).length - 1
  else
    -((Nat.toDigits 10 ((i.den - 1) / i.value)).length : Int)

/-- The point nearest to the number on the grid of `10 ^ p`, if one of its two neighbours there reads back. -/
def onGrid? (i : Interval) (p : Int) : Option Nat :=
  let num := i.value * Nat.pow 10 (-p).toNat
  let den := i.den * Nat.pow 10 p.toNat
  let c := num / den
  match i.has c p, i.has (c + 1) p with
  | true, true => some (if 2 * (num % den) < den then c else c + 1)
  | true, false => some c
  | false, true => some (c + 1)
  | false, false => none

/-- Tries grids from the coarsest on, each with one digit more. -/
def shortest (i : Interval) (p : Int) : Nat → Nat × Int
  | 0 => (i.value * Nat.pow 10 (-p).toNat / (i.den * Nat.pow 10 p.toNat), p)
  | tries + 1 =>
    match i.onGrid? p with
    | some c => (c, p)
    | none => i.shortest (p - 1) tries

end Interval

/-- A list of digits without the zeros at its end. -/
def dropTrailingZeros (s : List Char) : List Char :=
  (s.reverse.dropWhile (· = '0')).reverse

/-- The text of `c * 10 ^ p` without an exponent, and with a point only before a fraction. -/
def positional (c : Nat) (p : Int) : List Char :=
  let digits := Nat.toDigits 10 c
  if 0 ≤ p then digits ++ List.replicate p.toNat '0'
  else
    let places := (-p).toNat
    let padded := List.replicate (places + 1 - digits.length) '0' ++ digits
    let whole := padded.take (padded.length - places)
    match dropTrailingZeros (padded.drop (padded.length - places)) with
    | [] => whole
    | fraction => whole ++ '.' :: fraction

/-- The text of a number. -/
def Binary64.text : Binary64 → String
  | nan => "NaN"
  | infinite negative => if negative then "-inf" else "inf"
  | finite negative m q =>
    let digits :=
      if m = 0 then ['0']
      else
        let i := Interval.around m q
        let (c, p) := i.shortest i.floorLog10 17
        positional c p
    String.ofList (if negative then '-' :: digits else digits)

/-- The text of a number with a point at least: a finite number without a fraction has a zero behind its point. -/
def Binary64.pointedText (x : Binary64) : String :=
  match x with
  | finite .. => if '.' ∈ x.text.toList then x.text else x.text ++ ".0"
  | _ => x.text

end Supervision.Decimal

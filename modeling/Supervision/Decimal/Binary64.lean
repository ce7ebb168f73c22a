/-!
# Binary floating point, exactly

A `Binary64` is a value of the 64-bit binary format as the numbers that it stands for: a sign, and a mantissa times a power
of two. `ofDecimal` reads a decimal to the nearest of them, an even mantissa deciding a tie.
-/

namespace Supervision.Decimal

/-- A value of the 64-bit binary format. A finite one is `mantissa * 2 ^ exponent`, where the mantissa has 53 bits unless
the exponent is the least one, -1074. -/
inductive Binary64 where
  | nan
  | infinite (negative : Bool)
  | finite (negative : Bool) (mantissa : Nat) (exponent : Int)
deriving DecidableEq, Repr

/-- A quotient rounded to the nearest integer, a half to the even neighbour. -/
def roundHalfEven (num den : Nat) : Nat :=
  let down := num / den
  let rest := 2 * (num % den)
  if rest < den then down
  else if den < rest then down + 1
  else down + down % 2

/-- A quotient rounded to the nearest integer, a half up. -/
def roundHalfUp (num den : Nat) : Nat :=
  (2 * num + den) / (2 * den)

/-- A power of two with any exponent, as a quotient. -/
def twoPow (exponent : Int) : Nat × Nat :=
  (Nat.pow 2 exponent.toNat, Nat.pow 2 (-exponent).toNat)

namespace Binary64

/-- The least exponent of the format. -/
def minExponent : Int := -1074

/-- The greatest exponent of the format. -/
def maxExponent : Int := 971

/-- Zero with a sign. -/
def zero (negative : Bool) : Binary64 :=
  finite negative 0 minExponent

/-- The greatest `e` with `2 ^ e ≤ num / den`, for positive numbers. -/
def floorLog2 (num den : Nat) : Int :=
  let e : Int := (num.log2 : Int) - den.log2
  let (up, down) := twoPow e
  if den * up ≤ num * down then e else e - 1

/-- The value nearest to a positive quotient. -/
def ofQuotient (negative : Bool) (num den : Nat) : Binary64 :=
  let q := max (floorLog2 num den - 52) minExponent
  let (up, down) := twoPow q
  let m := roundHalfEven (num * down) (den * up)
  let (m, q) := if m = 0x20000000000000 then (0x10000000000000, q + 1) else (m, q)
  if maxExponent < q then infinite negative else finite negative m q

/-- The value nearest to `digits * 10 ^ exponent`. What is far beyond the format is not computed. -/
def ofDecimal (negative : Bool) (digits : Nat) (exponent : Int) : Binary64 :=
  if digits = 0 then zero negative
  else
    let magnitude := exponent + (Nat.toDigits 10 digits).length
    if 310 < magnitude then infinite negative
    else if magnitude < -330 then zero negative
    else ofQuotient negative (digits * Nat.pow 10 exponent.toNat) (Nat.pow 10 (-exponent).toNat)

/-- Whether a value is zero, of either sign. -/
def isZero : Binary64 → Bool
  | finite _ 0 _ => true
  | _ => false

/-- The nearest integer between two bounds, a half away from zero; a value that is no number counts as zero. -/
def toIntWithin (low high : Int) : Binary64 → Int
  | nan => 0
  | infinite negative => if negative then low else high
  | finite negative m q =>
    let (up, down) := twoPow q
    let n : Int := roundHalfUp (m * up) down
    max low (min high (if negative then -n else n))

end Binary64

end Supervision.Decimal

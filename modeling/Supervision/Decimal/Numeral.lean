import Supervision.Decimal.Digits

/-!
# Numerals

A numeral writes a number in decimal, with or without a sign, a point and a power of ten, or it is a word for what is too
great to write or is no number at all.
-/

namespace Supervision.Decimal

/-- The words that stand in the place of digits, in capital letters or not. -/
def numeralWords : List String :=
  ["inf", "infinity", "nan"]

/-- Whether a text is the power of ten of a numeral; there may be none. -/
def isPower : List Char → Bool
  | [] => true
  | _ :: rest =>
    let (_, digits) := unsigned rest
    !digits.isEmpty && digits.all Char.isDigit

/-- Whether a text without a sign is a numeral. There are digits on one side of the point at least. -/
def isUnsignedNumeral (s : List Char) : Bool :=
  let (mantissa, power) := s.span fun c => c != 'e' && c != 'E'
  let (whole, fraction) := mantissa.span (· != '.')
  let digits := whole ++ fraction.drop 1
  String.ofList (s.map Char.toLower) ∈ numeralWords || (!digits.isEmpty && digits.all Char.isDigit && isPower power)

/-- Whether a text is a numeral. -/
def isNumeral (s : List Char) : Bool :=
  isUnsignedNumeral (unsigned s).2

end Supervision.Decimal

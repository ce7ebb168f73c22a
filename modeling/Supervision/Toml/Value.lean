import Supervision.Decimal.Binary64

/-!
# TOML values

What a TOML document holds, freed of how it was written. The entries of a table are in the order of their first mention.
-/

namespace Supervision.Toml

open Decimal

/-- A value of a TOML document. A date or time is kept as its normal text. -/
inductive Value where
  | string (s : String)
  | integer (n : Int)
  | float (x : Binary64)
  | boolean (b : Bool)
  | dateTime (text : String)
  | array (items : List Value)
  | table (entries : List (String × Value))
deriving Repr, Inhabited

/-- The entries of a table. -/
abbrev Table := List (String × Value)

end Supervision.Toml

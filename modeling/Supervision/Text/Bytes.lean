/-!
# Places in a text

A place in a text is counted in the bytes that its characters take in UTF-8. `fromByte` and `upToByte` cut a text in two at a
place.
-/

namespace Supervision.Text

/-- How many bytes a text takes. -/
def byteSize : List Char → Nat
  | [] => 0
  | c :: rest => c.utf8Size + byteSize rest

/-- A text from a place on; where the place is inside a character, from behind that one on. -/
def fromByte : Nat → List Char → List Char
  | 0, s => s
  | _ + 1, [] => []
  | n + 1, c :: rest => fromByte (n + 1 - c.utf8Size) rest

/-- A text up to a place; where the place is inside a character, up to behind that one. -/
def upToByte : Nat → List Char → List Char
  | 0, _ => []
  | _ + 1, [] => []
  | n + 1, c :: rest => c :: upToByte (n + 1 - c.utf8Size) rest

/-- A text from one place up to another one. -/
def between (start stop : Nat) (s : List Char) : List Char :=
  upToByte (stop - start) (fromByte start s)

end Supervision.Text

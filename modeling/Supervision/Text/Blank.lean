import Supervision.Text.CodePoints

/-!
# Blank texts

A text is blank when it has no character that is not white space, in the sense of the property White_Space of Unicode;
trimming a text takes such characters off its ends.
-/

namespace Supervision.Text

/-- The characters with the property White_Space. -/
def whiteSpace : CodePoints := ⟨[
    9, 14, 32, 33, 133, 134, 160, 161, 5760, 5761, 8192, 8203, 8232, 8234, 8239, 8240, 8287, 8288, 12288, 12289]⟩

/-- Whether a text has nothing but white space. -/
def isBlank (s : String) : Bool :=
  s.toList.all whiteSpace.has

/-- The characters of a text without the white space at its ends. -/
def trim (s : List Char) : List Char :=
  ((s.dropWhile whiteSpace.has).reverse.dropWhile whiteSpace.has).reverse

end Supervision.Text

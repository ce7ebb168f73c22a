/-!
# Texts in pieces

A text is cut wherever a character occurs in it. There is one piece more than there are cuts.
-/

namespace Supervision.Text

/-- The pieces of a list of characters between the occurrences of one. -/
def cut (c : Char) : List Char → List (List Char)
  | [] => [[]]
  | d :: rest =>
    if d = c then [] :: cut c rest
    else
      match cut c rest with
      | [] => [[d]]
      | piece :: pieces => (d :: piece) :: pieces

/-- The pieces of a text between the occurrences of a character. -/
def pieces (c : Char) (s : String) : List String :=
  (cut c s.toList).map String.ofList

end Supervision.Text

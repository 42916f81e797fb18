/-!
# Splitting a text at a character
-/

namespace QueryPolicy.Text

/-- The pieces of a text between the occurrences of a character; there is always one. -/
def split (separator : Char) : List Char → List (List Char)
  | [] => [[]]
  | c :: cs =>
    if c = separator then [] :: split separator cs
    else
      match split separator cs with
      | [] => [[c]]
      | piece :: pieces => (c :: piece) :: pieces

end QueryPolicy.Text

/-!
# Bytes of a text
-/

namespace QueryPolicy.Text

/-- The longest start of a text that fits into so many bytes of UTF-8. -/
def takeBytes : (room : Nat) → List Char → List Char
  | _, [] => []
  | room, c :: cs => if c.utf8Size ≤ room then c :: takeBytes (room - c.utf8Size) cs else []

end QueryPolicy.Text

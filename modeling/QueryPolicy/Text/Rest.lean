/-!
# What is left of a text

Readers count what they take. What is left when so much is dropped, and one character more, is
shorter than the text.
-/

namespace QueryPolicy.Text

/-- The tail of what is left is shorter than the whole. -/
theorem length_lt_of_drop_eq_cons {α : Type} {whole tail : List α} {n : Nat} {a : α}
    (h : whole.drop n = a :: tail) : tail.length < whole.length := by
  have hlen := congrArg List.length h
  simp only [List.length_drop, List.length_cons] at hlen
  omega

end QueryPolicy.Text

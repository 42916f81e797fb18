import QueryPolicy.Query.Pattern.Reader

/-!
# Patterns of label matchers
-/

namespace QueryPolicy.Query.Pattern

/-- Looks past an opening brace for digits and one comma up to a closing brace. The answer says
whether they bound a repetition, and how many characters were looked at. -/
def lookForBounds (first comma : Bool) : List Char → Bool × Nat
  | [] => (false, 0)
  | c :: cs =>
    let goOn (comma : Bool) : Bool × Nat :=
      let (ok, n) := lookForBounds false comma cs
      (ok, n + 1)
    if c == ',' then if comma || first then (false, 1) else goOn true
    else if c == '\x7d' then (!first, 1)
    else if c.isDigit then goOn comma
    else (false, 1)

/-- Escapes every opening brace that does not begin the bounds of a repetition. What was looked at
to decide it is copied as it is. -/
def escapeBraces : List Char → List Char
  | [] => []
  | ['\x5c'] => []
  | '\x5c' :: c :: cs => '\x5c' :: c :: escapeBraces cs
  | '\x7b' :: cs =>
    let (isBounds, n) := lookForBounds true false cs
    let brace := if isBounds then ['\x7b'] else ['\x5c', '\x7b']
    brace ++ cs.take n ++ escapeBraces (cs.drop n)
  | c :: cs => c :: escapeBraces cs
termination_by cs => cs.length
decreasing_by all_goals simp only [List.length_drop, List.length_cons]; omega

/-- The pattern of a label matcher: the value between anchors, with stray braces escaped if it is
no pattern as it is. -/
def ofValue? (value : String) : Option Pattern :=
  let anchored := '^' :: (value.toList ++ ['$'])
  match ofChars? anchored with
  | some p => some p
  | none => ofChars? (escapeBraces anchored)

end QueryPolicy.Query.Pattern

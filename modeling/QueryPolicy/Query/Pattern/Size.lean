import QueryPolicy.Query.Pattern
import QueryPolicy.Query.Pattern.LiteralTree

/-!
# The size of a pattern's automaton

A pattern is searched for with two automata over bytes, one that reads forward and one that reads
backward. Both must fit into ten mebibytes. They are not built here: their sizes follow from the
pattern.
-/

namespace QueryPolicy.Query

/-- The way an automaton reads a text. -/
inductive Direction
  | forward
  | backward
  deriving DecidableEq

/-- The bytes that a state takes. -/
def stateSize : Nat := 32

/-- The bytes that a branch to another state takes. -/
def branchSize : Nat := 4

/-- The bytes that a transition takes, in a state that has several. -/
def transitionSize : Nat := 8

/-- The bytes that an automaton may take. -/
def sizeLimit : Nat := 10 * Nat.pow 2 20

/-- The bytes that states, branches and transitions take. -/
def LiteralTree.Count.size (c : LiteralTree.Count) : Nat :=
  c.states * stateSize + c.branches * branchSize + c.transitions * transitionSize

/-! ## Sets -/

/-- The ways on from a state that reads one of some sequences: a range of bytes, and what can come
after it. Sequences that begin alike are neighbours. -/
def waysOn : List (List Text.ByteRange) → List (Text.ByteRange × List (List Text.ByteRange))
  | [] => []
  | [] :: sequences => waysOn sequences
  | (range :: rest) :: sequences =>
    match waysOn sequences with
    | [] => [(range, [rest])]
    | way :: ways =>
      if way.1 = range then (range, rest :: way.2) :: ways else (range, [rest]) :: way :: ways

/-- The states, other than the final one, of the automaton that reads one of some sequences, down to
a depth. A state is what can still come. -/
def statesWithin : (depth : Nat) → List (List Text.ByteRange) →
    List (List (List Text.ByteRange))
  | 0, _ => []
  | depth + 1, sequences =>
    if (waysOn sequences).isEmpty then []
    else sequences :: (waysOn sequences).flatMap fun way => statesWithin depth way.2

/-- The longest encoding of a character. -/
def encodingLimit : Nat := 4

/-- The size of the automaton for one character of a set. Forward, states from which the same can
come are one. Backward, sequences share states as far as they begin alike. -/
def setSize (direction : Direction) (s : Text.CharSet) : Nat :=
  if s.isAscii then 2 * stateSize + s.ranges.length * transitionSize
  else
    match direction with
    | .forward =>
      let states := (statesWithin encodingLimit s.encodings).eraseDups
      states.foldl (fun size st => size + stateSize + (waysOn st).length * transitionSize) stateSize
    | .backward =>
      let starts := s.encodings.flatMap fun seq =>
        (List.range seq.length).map fun n => seq.take (n + 1)
      2 * stateSize + s.encodings.length * branchSize + starts.eraseDups.length * stateSize

/-! ## Patterns -/

/-- The size of a pattern of a given size so many times; `skips` says that a match of it may take no
character. -/
def timesSize (size : Nat) (skips : Bool) (least : Nat) (most : Option Nat) : Nat :=
  let exactly := if least = 0 then stateSize else least * size
  match most with
  | some 1 =>
    if least = 0 then size + 2 * (stateSize + branchSize) else exactly
  | some most =>
    if least = most then exactly
    else exactly + stateSize + (most - least) * (size + stateSize + 2 * branchSize)
  | none =>
    if least = 0 then
      if skips then size + 3 * stateSize + 4 * branchSize else size + stateSize + 2 * branchSize
    else exactly + stateSize + 2 * branchSize

namespace Pattern

/-- The bytes of the branches, if they are all literals. -/
def literalBranches? : Pattern → Option (List (List UInt8))
  | literal cs => some [Text.bytes cs]
  | alternative (literal cs) q => q.literalBranches?.map (Text.bytes cs :: ·)
  | _ => none

/-- The size of a pattern, given those of its branches. -/
def joinSizes (direction : Direction) (p : Pattern) : List Nat → Nat
  | [size] => size
  | sizes =>
    match p.literalBranches?, direction with
    | some literals, .forward => (LiteralTree.count literals).size
    | some literals, .backward => (LiteralTree.count (literals.map List.reverse)).size
    | none, _ => sizes.foldl (fun total size => total + size + branchSize) (2 * stateSize)

/-- The sizes of the branches of a pattern. Only the forward automaton marks groups. -/
def branchSizes (direction : Direction) : Pattern → List Nat
  | empty => [stateSize]
  | literal cs => [(Text.bytes cs).length * stateSize]
  | set s => [setSize direction s]
  | assertion _ => [stateSize]
  | repeated p least most _ =>
    let skips := !(p.leastLength?.any (0 < ·))
    [timesSize (joinSizes direction p (branchSizes direction p)) skips least most]
  | capture _ p =>
    let marks := if direction = .forward then 2 * stateSize else 0
    [joinSizes direction p (branchSizes direction p) + marks]
  | sequence p q =>
    [joinSizes direction p (branchSizes direction p) +
      joinSizes direction q (branchSizes direction q)]
  | alternative p q =>
    joinSizes direction p (branchSizes direction p) :: branchSizes direction q

/-- The size of a pattern inside an automaton. -/
def size (direction : Direction) (p : Pattern) : Nat :=
  joinSizes direction p (branchSizes direction p)

/-- The size of the loop that lets a search begin anywhere, or of the state that stands in its place
where every match begins at an end of the text. -/
def searchSize (anchored : Bool) : Nat :=
  if anchored then stateSize else 3 * stateSize + transitionSize + 2 * branchSize

/-- The size of the automaton that searches for a pattern: with the loop, the marks of the whole
match, and a final state. -/
def automatonSize (direction : Direction) (p : Pattern) : Nat :=
  match direction with
  | .forward => searchSize p.startsText + 2 * stateSize + p.size .forward + stateSize
  | .backward => searchSize p.endsText + p.size .backward + stateSize

/-- Whether both automata are small enough. -/
def fits (p : Pattern) : Bool :=
  p.automatonSize .forward ≤ sizeLimit && p.automatonSize .backward ≤ sizeLimit

end Pattern

end QueryPolicy.Query

import QueryPolicy.Text.CharSet.Bytes

/-!
# Literals that share their beginnings

Alternatives that are all literals are read along a tree of bytes. A literal that ends at a node is
preferred to those that come later and go on from there, so that the ways on from a node lie in
groups, one for those before each literal that ends.
-/

namespace QueryPolicy.Query.LiteralTree

/-- Ways on from a node: a byte, and what is left of the literals that go on with it. -/
abbrev Ways := List (UInt8 × List (List UInt8))

/-- Adds a literal that goes on with a byte. -/
def Ways.add (byte : UInt8) (rest : List UInt8) : Ways → Ways
  | [] => [(byte, [rest])]
  | way :: ways =>
    if way.1 = byte then (byte, way.2 ++ [rest]) :: ways else way :: Ways.add byte rest ways

/-- Adds what is left of a literal to groups of ways, the one in progress first. One that ends here
begins a new group, unless the node has no ways on and a literal has ended before. -/
def addRest (groups : List Ways) (rest : List UInt8) : List Ways :=
  match rest, groups with
  | byte :: rest, ways :: ended => ways.add byte rest :: ended
  | byte :: rest, [] => [[(byte, [rest])]]
  | [], groups => if 1 < groups.length && groups.all List.isEmpty then groups else [] :: groups

/-- The ways on from a node, given what is left there of the literals, in order. -/
def groupsOf (rests : List (List UInt8)) : List Ways := rests.foldl addRest [[]]

/-- The number of states, branches and transitions of an automaton. Each branch leads from one of
its states, and so does each transition; a state with one transition holds it itself. -/
structure Count where
  states : Nat := 0
  branches : Nat := 0
  transitions : Nat := 0
  deriving DecidableEq

instance : Add Count :=
  ⟨fun a b => ⟨a.states + b.states, a.branches + b.branches, a.transitions + b.transitions⟩⟩

/-- The sum of counts. -/
def sumCounts (counts : List Count) : Count := counts.foldl (· + ·) {}

/-- What a group of ways adds to its node. -/
def Ways.count (ways : Ways) : Count :=
  match ways.length with
  | 0 => {}
  | 1 => { states := 1, branches := 1 }
  | n => { states := 1, branches := 1, transitions := n }

/-- The count of the nodes at and below one, down to a depth. A node without ways on needs no state
of its own. -/
def countWithin : (depth : Nat) → List (List UInt8) → Count
  | 0, _ => {}
  | depth + 1, rests =>
    let groups := groupsOf rests
    if groups.all List.isEmpty then {}
    else
      let node : Count := { states := 1, branches := groups.length - 1 }
      let below := groups.flatMap fun ways => ways.map fun way => countWithin depth way.2
      node + sumCounts (groups.map Ways.count) + sumCounts below

/-- The count of the automaton that reads one of some literals, with its final state. -/
def count (literals : List (List UInt8)) : Count :=
  let depth := (literals.map List.length).foldl max 0
  { states := 1 } + countWithin depth literals

end QueryPolicy.Query.LiteralTree

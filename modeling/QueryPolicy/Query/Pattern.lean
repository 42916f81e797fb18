import QueryPolicy.Text.CharSet

/-!
# Regular expressions

A pattern is built in a normal form by functions that simplify as they build: items of a sequence
are no sequences, neighbouring literals are one, alternatives that are single characters are a set,
and what all alternatives begin with stands before them.
-/

namespace QueryPolicy.Query

/-- The edge of a word. A half edge looks at one side only. -/
inductive WordEdge
  | either
  | start
  | end_
  | startHalf
  | endHalf
  deriving DecidableEq

/-- A condition on a place in a text. -/
inductive Assertion
  | textStart
  | textEnd
  | lineStart (crlf : Bool)
  | lineEnd (crlf : Bool)
  | wordEdge (edge : WordEdge) (unicode : Bool)
  deriving DecidableEq

/-- Whether the condition holds in the empty text, which has no words and is one line. -/
def Assertion.holdsInEmpty : Assertion → Bool
  | wordEdge edge _ => edge = .startHalf || edge = .endHalf
  | _ => true

/-- A regular expression. -/
inductive Pattern
  /-- Nothing. -/
  | empty
  /-- Characters, one after the other. -/
  | literal (cs : List Char)
  /-- One character of a set. -/
  | set (s : Text.CharSet)
  /-- A condition on the place. -/
  | assertion (a : Assertion)
  /-- A pattern so many times. -/
  | repeated (inner : Pattern) (least : Nat) (most : Option Nat) (greedy : Bool)
  /-- A group whose match is remembered. -/
  | capture (index : Nat) (inner : Pattern)
  /-- An item, then the rest of a sequence. -/
  | sequence (first rest : Pattern)
  /-- A branch, or one of the other branches. -/
  | alternative (first rest : Pattern)
  deriving DecidableEq

namespace Pattern

/-! ## Properties -/

/-- Whether the empty text has a match. -/
def matchesEmpty : Pattern → Bool
  | empty => true
  | literal cs => cs.isEmpty
  | set _ => false
  | assertion a => a.holdsInEmpty
  | repeated p least _ _ => least = 0 || p.matchesEmpty
  | capture _ p => p.matchesEmpty
  | sequence p q => p.matchesEmpty && q.matchesEmpty
  | alternative p q => p.matchesEmpty || q.matchesEmpty

/-- The least length of a match. A pattern that holds an empty set has none. -/
def leastLength? : Pattern → Option Nat
  | empty => some 0
  | literal cs => some cs.length
  | set s => if s.ranges.isEmpty then none else some 1
  | assertion _ => some 0
  | repeated p least _ _ => p.leastLength?.map (· * least)
  | capture _ p => p.leastLength?
  | sequence p q => p.leastLength?.bind fun n => q.leastLength?.map (n + ·)
  | alternative p q => p.leastLength?.bind fun n => q.leastLength?.map (min n)

/-- Whether every match is empty. -/
def onlyEmpty : Pattern → Bool
  | empty => true
  | literal cs => cs.isEmpty
  | set _ => false
  | assertion _ => true
  | repeated p _ _ _ => p.onlyEmpty
  | capture _ p => p.onlyEmpty
  | sequence p q => p.onlyEmpty && q.onlyEmpty
  | alternative p q => p.onlyEmpty && q.onlyEmpty

/-- Whether every match starts where the text does. -/
def startsText : Pattern → Bool
  | assertion a => a = .textStart
  | repeated p least _ _ => 0 < least && p.startsText
  | capture _ p => p.startsText
  | sequence p q => p.startsText || (p.onlyEmpty && q.startsText)
  | alternative p q => p.startsText && q.startsText
  | _ => false

/-- Whether every match ends where the text does. -/
def endsText : Pattern → Bool
  | assertion a => a = .textEnd
  | repeated p least _ _ => 0 < least && p.endsText
  | capture _ p => p.endsText
  | sequence p q => q.endsText || (q.onlyEmpty && p.endsText)
  | alternative p q => p.endsText && q.endsText
  | _ => false

/-! ## Sets -/

/-- One character of a set; a set of one character is a literal. -/
def ofSet (s : Text.CharSet) : Pattern :=
  match s.single? with
  | some c => literal [c]
  | none => set s

/-- The characters of a pattern that always matches just one. -/
def toSet? : Pattern → Option Text.CharSet
  | literal [c] => some (.ofChar c)
  | set s => some s
  | _ => none

/-! ## Sequences -/

/-- The items of a sequence; a pattern that is no sequence is its only item. -/
def items : Pattern → List Pattern
  | empty => []
  | sequence p q => p :: q.items
  | p => [p]

/-- Items one after the other. -/
def ofItems : List Pattern → Pattern
  | [] => empty
  | [p] => p
  | p :: ps => sequence p (ofItems ps)

/-- Puts an item before others; two literals that meet become one. -/
def consItem (p : Pattern) (ps : List Pattern) : List Pattern :=
  match p, ps with
  | literal cs, literal ds :: rest => literal (cs ++ ds) :: rest
  | p, ps => p :: ps

/-- Patterns one after the other. -/
def concat (ps : List Pattern) : Pattern := ofItems ((ps.flatMap items).foldr consItem [])

/-! ## Alternatives -/

/-- The branches of alternatives; a pattern that has none is its only branch. -/
def branches : Pattern → List Pattern
  | alternative p q => p :: q.branches
  | p => [p]

/-- One of some branches. -/
def ofBranches : List Pattern → Pattern
  | [] => set {}
  | [p] => p
  | p :: ps => alternative p (ofBranches ps)

/-- What two lists begin with alike. -/
def commonStart : List Pattern → List Pattern → List Pattern
  | p :: ps, q :: qs => if p = q then p :: commonStart ps qs else []
  | _, _ => []

/-- The items that all of several sequences begin with; none if one of them is no sequence. -/
def sharedItems (ps : List Pattern) : List Pattern :=
  match ps.map items with
  | [] => []
  | first :: rest =>
    if (first :: rest).all (2 ≤ ·.length) then rest.foldl commonStart first else []

/-- One of some patterns. What they begin with alike is taken out, up to `depth` times. -/
def alternationWithin (depth : Nat) (ps : List Pattern) : Pattern :=
  match ps.flatMap branches with
  | [p] => p
  | ps =>
    match ps.mapM toSet?, depth with
    | some sets, _ => ofSet (sets.foldl .union {})
    | none, 0 => ofBranches ps
    | none, depth + 1 =>
      match sharedItems ps with
      | [] => ofBranches ps
      | shared =>
        let others := ps.map fun p => concat (p.items.drop shared.length)
        concat (shared ++ [alternationWithin depth others])

/-- One of some patterns. Taking out what they begin with shortens them, so that it is done at most
as often as the first one has items. -/
def alternation (ps : List Pattern) : Pattern :=
  alternationWithin ((ps.flatMap branches).headD empty).items.length ps

/-! ## Repetitions -/

/-- A pattern so many times. One that only matches the empty text need not be repeated. -/
def times (p : Pattern) (least : Nat) (most : Option Nat) (greedy : Bool) : Pattern :=
  let (least, most) :=
    if p.onlyEmpty then (min least 1, some (min (most.getD 1) 1)) else (least, most)
  if most = some 0 then empty
  else if least = 1 && most = some 1 then p
  else repeated p least most greedy

end Pattern

end QueryPolicy.Query

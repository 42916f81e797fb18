import QueryPolicy.Text.CaseFolding
import QueryPolicy.Text.Ranges

/-!
# Sets of characters

A set is the list of its ranges of code points: inclusive, ascending, and with a gap between any
two. Surrogates are no characters and lie in no set.
-/

namespace QueryPolicy.Text

/-- A set of characters. -/
structure CharSet where
  ranges : List (Nat × Nat) := []
  deriving DecidableEq

namespace CharSet

/-- The greatest code point. -/
def greatest : Nat := 0x10ffff

/-- Whether a code point lies in the set. -/
def contains (s : CharSet) (n : Nat) : Bool := inRanges s.ranges n

/-- Whether the set has only ASCII characters. -/
def isAscii (s : CharSet) : Bool := s.ranges.all (·.2 < 0x80)

/-- The only character of a set that has just one. -/
def single? (s : CharSet) : Option Char :=
  match s.ranges with
  | [(low, high)] => if low = high then some (Char.ofNat low) else none
  | _ => none

/-! ## Operations -/

/-- Adds a range to ascending ranges. It absorbs those that it overlaps or touches. -/
def insertRange (low high : Nat) : List (Nat × Nat) → List (Nat × Nat)
  | [] => [(low, high)]
  | r :: rs =>
    if high + 1 < r.1 then (low, high) :: r :: rs
    else if r.2 + 1 < low then r :: insertRange low high rs
    else insertRange (min low r.1) (max high r.2) rs

/-- The code points from `low` on that lie in none of the ranges. -/
def gapsFrom (low : Nat) : List (Nat × Nat) → List (Nat × Nat)
  | [] => if low ≤ greatest then [(low, greatest)] else []
  | r :: rs =>
    if low < r.1 then (low, r.1 - 1) :: gapsFrom (r.2 + 1) rs else gapsFrom (r.2 + 1) rs

/-- The characters outside the set. -/
def complement (s : CharSet) : CharSet := ⟨gapsFrom 0 (insertRange 0xd800 0xdfff s.ranges)⟩

/-- The characters of either set. -/
def union (s t : CharSet) : CharSet :=
  ⟨t.ranges.foldl (fun rs r => insertRange r.1 r.2 rs) s.ranges⟩

/-- The characters of both sets. -/
def inter (s t : CharSet) : CharSet := (s.complement.union t.complement).complement

/-- The characters of the first set that are not in the second. -/
def diff (s t : CharSet) : CharSet := s.inter t.complement

/-- The characters of just one of the sets. -/
def symmDiff (s t : CharSet) : CharSet := (s.diff t).union (t.diff s)

/-- All characters. -/
def all : CharSet := complement {}

/-- The characters from one code point to another. -/
def ofRange (low high : Nat) : CharSet := inter ⟨[(low, high)]⟩ all

/-- The characters of some ranges. -/
def ofRanges (ranges : List (Nat × Nat)) : CharSet :=
  ranges.foldl (fun s r => s.union (ofRange r.1 r.2)) {}

/-- One character. -/
def ofChar (c : Char) : CharSet := ⟨[(c.toNat, c.toNat)]⟩

/-- The set with a code point added. -/
def insert (s : CharSet) (n : Nat) : CharSet := ⟨insertRange n n s.ranges⟩

/-- The characters that differ from one of the set by case alone, among the given foldings: those
that fold to the same letter. -/
def closeUnder (pairs : List (Nat × Nat)) (s : CharSet) : CharSet :=
  let folded := pairs.foldl (fun t (c, target) => if s.contains c then t.insert target else t) s
  pairs.foldl (fun t (c, target) => if folded.contains target then t.insert c else t) folded

/-- The set with all letters that differ from one of it by case alone. Without Unicode, only ASCII
letters have a case. -/
def foldCase (unicode : Bool) (s : CharSet) : CharSet :=
  closeUnder (if unicode then foldings else foldings.takeWhile (·.1 < 0x80)) s

end CharSet

end QueryPolicy.Text

import QueryPolicy.Text.Quoted

/-!
# Sets of names

A finite set of strings is its strictly ascending list of members, so two sets with the same
members are equal and every listing of a set is in order.
-/

namespace QueryPolicy

/-- A finite set of strings, listed in strictly ascending code point order. -/
structure NameSet where
  toList : List String
  ascending : toList.Pairwise (· < ·) := by simp
  deriving DecidableEq

namespace NameSet

/-- Adds a name to an ascending list, unless it is there. -/
def insertSorted (a : String) : List String → List String
  | [] => [a]
  | b :: l => if a < b then a :: b :: l else if b < a then b :: insertSorted a l else b :: l

theorem mem_insertSorted {a x : String} {l : List String} :
    x ∈ insertSorted a l ↔ x = a ∨ x ∈ l := by
  induction l with
  | nil => simp [insertSorted]
  | cons b l ih =>
    simp only [insertSorted]
    split
    · simp
    · rename_i hab
      split
      · simp [ih]; grind
      · rename_i hba
        have : a = b := String.le_antisymm (String.not_lt.1 hba) (String.not_lt.1 hab)
        simp [this]

theorem pairwise_insertSorted {a : String} {l : List String} (h : l.Pairwise (· < ·)) :
    (insertSorted a l).Pairwise (· < ·) := by
  induction l with
  | nil => simp [insertSorted]
  | cons b l ih =>
    obtain ⟨hb, hl⟩ := List.pairwise_cons.1 h
    simp only [insertSorted]
    split
    · rename_i hab
      refine List.pairwise_cons.2 ⟨fun c hc => ?_, h⟩
      rcases List.mem_cons.1 hc with rfl | hc
      · exact hab
      · exact String.lt_trans hab (hb c hc)
    · split
      · rename_i hba
        refine List.pairwise_cons.2 ⟨fun c hc => ?_, ih hl⟩
        rcases mem_insertSorted.1 hc with rfl | hc
        · exact hba
        · exact hb c hc
      · exact h

instance : Membership String NameSet := ⟨fun s a => a ∈ s.toList⟩

instance (a : String) (s : NameSet) : Decidable (a ∈ s) :=
  inferInstanceAs (Decidable (a ∈ s.toList))

@[simp] theorem mem_toList {a : String} {s : NameSet} : a ∈ s.toList ↔ a ∈ s := Iff.rfl

/-- The set with no member. -/
def empty : NameSet := { toList := [] }

instance : EmptyCollection NameSet := ⟨empty⟩

instance : Inhabited NameSet := ⟨∅⟩

/-- Adds a name. -/
def insert (s : NameSet) (a : String) : NameSet where
  toList := insertSorted a s.toList
  ascending := pairwise_insertSorted s.ascending

/-- The set of the names in a list, whatever their order and repetitions. -/
def ofList (l : List String) : NameSet := l.foldl insert ∅

/-- Whether there is no member. -/
def isEmpty (s : NameSet) : Bool := s.toList.isEmpty

/-- The members of the first set that are not in the second. -/
def diff (s t : NameSet) : NameSet where
  toList := s.toList.filter (· ∉ t)
  ascending := s.ascending.filter _

instance : SDiff NameSet := ⟨diff⟩

/-- The members of either set. -/
def union (s t : NameSet) : NameSet := t.toList.foldl insert s

instance : Union NameSet := ⟨union⟩

/-- The members between braces, unquoted, in ascending order. -/
def render (s : NameSet) : String :=
  "\x7b" ++ Text.commaSeparated s.toList ++ "\x7d"

/-- The members between braces, each quoted, in ascending order. -/
def renderQuoted (s : NameSet) : String :=
  "\x7b" ++ Text.commaSeparated (s.toList.map Text.quote) ++ "\x7d"

/-! ## Members -/

@[simp] theorem not_mem_empty (a : String) : a ∉ (∅ : NameSet) :=
  List.not_mem_nil

@[simp] theorem mem_insert {a x : String} {s : NameSet} : x ∈ s.insert a ↔ x = a ∨ x ∈ s :=
  mem_insertSorted

theorem mem_foldl_insert {x : String} {l : List String} {s : NameSet} :
    x ∈ l.foldl insert s ↔ x ∈ l ∨ x ∈ s := by
  induction l generalizing s with
  | nil => simp
  | cons a l ih => simp [ih]; grind

@[simp] theorem mem_ofList {x : String} {l : List String} : x ∈ ofList l ↔ x ∈ l := by
  simp [ofList, mem_foldl_insert]

@[simp] theorem mem_union {x : String} {s t : NameSet} : x ∈ s ∪ t ↔ x ∈ s ∨ x ∈ t := by
  show x ∈ t.toList.foldl insert s ↔ _
  rw [mem_foldl_insert, mem_toList]; exact Or.comm

@[simp] theorem mem_sdiff {x : String} {s t : NameSet} : x ∈ s \ t ↔ x ∈ s ∧ x ∉ t := by
  show x ∈ s.toList.filter (· ∉ t) ↔ _
  simp

end NameSet

end QueryPolicy

import QueryPolicy.Expr.Basic

/-!
# Sets of names are determined by their members

A strictly ascending list is the only one with its members, so equality of sets is equality of
members, whatever lists they were built from.
-/

namespace QueryPolicy

namespace NameSet

/-- Two sets with the same members are equal. -/
theorem ext {s t : NameSet} (h : ∀ x, x ∈ s ↔ x ∈ t) : s = t := by
  obtain ⟨l, hl⟩ := s
  obtain ⟨l', hl'⟩ := t
  have hnodup : ∀ {l : List String}, l.Pairwise (· < ·) → l.Nodup := by
    intro l hlt
    refine hlt.imp fun {a b} hab heq => ?_
    subst heq
    exact String.lt_irrefl a hab
  have hperm : l.Perm l' := (List.perm_ext_iff_of_nodup (hnodup hl) (hnodup hl')).2 h
  have heq : l = l' :=
    hperm.eq_of_pairwise (fun a b _ _ hab hba => absurd hba (String.lt_asymm hab)) hl hl'
  subst heq
  rfl

theorem eq_iff {s t : NameSet} : s = t ↔ ∀ x, x ∈ s ↔ x ∈ t :=
  ⟨fun h _ => by rw [h], ext⟩

theorem toList_eq_nil {s : NameSet} : s.toList = [] ↔ ∀ x, x ∉ s := by
  rw [List.eq_nil_iff_forall_not_mem]
  rfl

theorem eq_empty_of_isEmpty {s : NameSet} (h : s.isEmpty = true) : s = ∅ :=
  ext fun x => iff_of_false (toList_eq_nil.1 (List.isEmpty_iff.1 h) x) (not_mem_empty x)

/-- The strictly ascending list of the names with a property. -/
def IsListing (l : List String) (P : String → Prop) : Prop :=
  l.Pairwise (· < ·) ∧ ∀ x, x ∈ l ↔ P x

theorem isListing_toList {s : NameSet} {P : String → Prop} (h : ∀ x, x ∈ s ↔ P x) :
    IsListing s.toList P :=
  ⟨s.ascending, h⟩

/-- Names between braces, as a set shows its members. -/
def braced (l : List String) : String := "\x7b" ++ Text.commaSeparated l ++ "\x7d"

end NameSet

/-- The labels of an optional clause as they are written; no clause has no labels. -/
def Grouping.listed (g : Option Grouping) : List String := g.toList.flatMap labels

@[simp] theorem Grouping.mem_labelSet {x : String} {g : Option Grouping} :
    x ∈ labelSet g ↔ x ∈ listed g :=
  NameSet.mem_ofList

end QueryPolicy

import QueryPolicy.Proofs.Policy.Grouping
import QueryPolicy.Proofs.Text.ByteOrder

/-!
# Label sets are canonical

A set built from a list of names is the one list of these names that is strictly ascending by bytes,
which is the same as by code points. So the order and the repetitions of the list leave no trace in
the set, in what a policy with this set answers, and in the labels that it shows.
-/

namespace QueryPolicy

theorem Grouping.labelSet_some (g : Grouping) : labelSet (some g) = .ofList g.labels := by
  rw [labelSet, Option.toList_some, List.flatMap_singleton]

namespace NameSet

/-- The list of the names with a property, strictly ascending by their bytes in UTF-8. -/
def IsCanonical (l : List String) (P : String → Prop) : Prop :=
  l.Pairwise (fun a b => Text.utf8 a < Text.utf8 b) ∧ ∀ x, x ∈ l ↔ P x

theorem isCanonical_iff {l : List String} {P : String → Prop} :
    IsCanonical l P ↔ IsListing l P := by
  simp only [IsCanonical, IsListing, Text.utf8_lt_iff]

theorem isCanonical_toList {s : NameSet} {P : String → Prop} (h : ∀ x, x ∈ s ↔ P x) :
    IsCanonical s.toList P :=
  isCanonical_iff.2 (isListing_toList h)

/-- A property of names has at most one canonical list. -/
theorem eq_toList_iff {s : NameSet} {l : List String} {P : String → Prop} (h : ∀ x, x ∈ s ↔ P x) :
    l = s.toList ↔ IsCanonical l P := by
  constructor
  · rintro rfl
    exact isCanonical_toList h
  · intro hl
    obtain ⟨hascending, hmem⟩ := isCanonical_iff.1 hl
    have heq : (⟨l, hascending⟩ : NameSet) = s := ext fun x => (hmem x).trans (h x).symm
    exact congrArg toList heq

theorem ofList_eq_ofList {l l' : List String} :
    ofList l = ofList l' ↔ ∀ x, x ∈ l ↔ x ∈ l' := by
  simp only [eq_iff, mem_ofList]

/-- The set of a list of names is its one strictly ascending list, by bytes as by code points, and
the labels of a clause are such a set. Lists with the same members, and only these, give the same
set, so the three policies that have a set answer the same for both. The labels in a report on
grouping are always listed in this order. -/
theorem ofList_canonical :
    (∀ names l : List String, l = (ofList names).toList ↔ IsCanonical l (· ∈ names)) ∧
    (∀ g : Grouping, Grouping.labelSet (some g) = ofList g.labels) ∧
    (∀ s t : String, Text.utf8 s < Text.utf8 t ↔ Text.codePoints s < Text.codePoints t) ∧
    (∀ names names' : List String,
      ofList names = ofList names' ↔ ∀ x, x ∈ names ↔ x ∈ names') ∧
    (∀ names names' : List String, (∀ x, x ∈ names ↔ x ∈ names') → ∀ e : Expr,
      (Policy.aggregationGroup (ofList names)).check e =
        (Policy.aggregationGroup (ofList names')).check e ∧
      (Policy.aggregationFunction (ofList names)).check e =
        (Policy.aggregationFunction (ofList names')).check e ∧
      (Policy.function (ofList names)).check e = (Policy.function (ofList names')).check e) ∧
    ∀ (names : List String) (e : Expr) (v : Violation),
      (Policy.aggregationGroup (ofList names)).check e = .error v →
      ∃ p op g param body,
        e.FirstAt (Policy.aggregationGroup (ofList names)).ForbiddenAt p
          (.aggregate op g param body) ∧
        ∃ grouping wanted missing unexpected,
          v.message = "aggregation '" ++ op ++ "' groups by " ++ braced grouping ++
            ", expected " ++ braced wanted ++ " (missing " ++ braced missing ++
            ", unexpected " ++ braced unexpected ++ ")" ∧
          IsCanonical grouping (· ∈ Grouping.listed g) ∧ IsCanonical wanted (· ∈ names) ∧
          IsCanonical missing (fun x => x ∈ names ∧ x ∉ Grouping.listed g) ∧
          IsCanonical unexpected (fun x => x ∈ Grouping.listed g ∧ x ∉ names) := by
  refine ⟨fun names l => eq_toList_iff fun x => mem_ofList, Grouping.labelSet_some, fun s t => ?_,
    fun names names' => ofList_eq_ofList, fun names names' h e => ?_, fun names e v hv => ?_⟩
  · rw [Text.utf8_lt_iff, Text.codePoints_lt_iff]
  · rw [ofList_eq_ofList.2 h]
    exact ⟨rfl, rfl, rfl⟩
  · obtain ⟨p, op, g, param, body, hfirst, rfl⟩ := Policy.exists_of_check_aggregationGroup hv
    refine ⟨p, op, g, param, body, hfirst, (Grouping.labelSet g).toList, (ofList names).toList,
      (ofList names \ Grouping.labelSet g).toList, (Grouping.labelSet g \ ofList names).toList, rfl,
      ?_, ?_, ?_, ?_⟩
    · exact isCanonical_toList fun x => Grouping.mem_labelSet
    · exact isCanonical_toList fun x => mem_ofList
    · exact isCanonical_toList fun x => by rw [mem_sdiff, mem_ofList, Grouping.mem_labelSet]
    · exact isCanonical_toList fun x => by rw [mem_sdiff, mem_ofList, Grouping.mem_labelSet]

/-- A label of three bytes comes before one of four, and the repeated label changes nothing. -/
theorem ofList_canonical_four_bytes :
    let e : Expr := .aggregate "sum" (some (.byLabels ["😀", "\uffff", "job"])) none
      (.vector ⟨some "up", [], []⟩)
    let v : Violation := .grouping "sum" (ofList ["job", "\uffff", "😀"]) (ofList ["job"])
    (Policy.aggregationGroup (ofList ["job", "job"])).check e = .error v ∧
      (Policy.aggregationGroup (ofList ["job"])).check e = .error v ∧
      (∃ p n, e.FirstAt (Policy.aggregationGroup (ofList ["job", "job"])).ForbiddenAt p n) ∧
      v.message = "aggregation 'sum' groups by \x7bjob, \uffff, 😀\x7d, expected \x7bjob\x7d " ++
        "(missing \x7b\x7d, unexpected \x7b\uffff, 😀\x7d)" := by
  intro e v
  have hv : (Policy.aggregationGroup (ofList ["job", "job"])).check e = .error v := by
    rw [Policy.check, Policy.violation?_eq]
    rfl
  obtain ⟨-, -, -, -, hsame, hreport⟩ := ofList_canonical
  obtain ⟨p, op, g, param, body, hfirst, -⟩ := hreport ["job", "job"] e v hv
  refine ⟨hv, ?_, ⟨p, _, hfirst⟩, by decide +kernel⟩
  rw [← hv]
  exact ((hsame ["job", "job"] ["job"] (by simp) e).1).symm

end NameSet

end QueryPolicy

import QueryPolicy.Proofs.Policy.Check

/-!
# The grouping policy

Every aggregation groups by exactly the expected labels, or the first one that does not is reported
with the labels it lacks and those it has too many.
-/

namespace QueryPolicy.Policy

theorem check_aggregationGroup_eq_ok {expected : NameSet} {e : Expr} :
    (aggregationGroup expected).check e = .ok () ↔
      ∀ p op g param body, e.at? p = some (.aggregate op g param body) →
        ∀ x, x ∈ Grouping.listed g ↔ x ∈ expected := by
  rw [check_eq_ok]
  constructor
  · intro h p op g param body hn
    exact Classical.not_not.1 (h p _ hn)
  · intro h p n hn hforbidden
    cases n with
    | aggregate op g param body => exact hforbidden (h p op g param body hn)
    | _ => exact hforbidden

theorem exists_of_check_aggregationGroup {expected : NameSet} {e : Expr} {v : Violation}
    (h : (aggregationGroup expected).check e = .error v) :
    ∃ p op g param body,
      e.FirstAt (aggregationGroup expected).ForbiddenAt p (.aggregate op g param body) ∧
      v = .grouping op (Grouping.labelSet g) expected := by
  obtain ⟨p, n, hfirst, hnode⟩ := exists_of_check_eq_error h
  cases n with
  | aggregate op g param body =>
      rw [nodeViolation?, Expr.aggregation?, Option.bind_some, groupViolation?] at hnode
      split at hnode
      · cases hnode
      · cases hnode
        exact ⟨p, op, g, param, body, hfirst, rfl⟩
  | _ => cases hnode

/-- Two different sets are told apart by what one of them lacks. -/
theorem sdiff_ne_nil {s t : NameSet} (h : ¬ ∀ x, x ∈ s ↔ x ∈ t) :
    (t \ s).toList ≠ [] ∨ (s \ t).toList ≠ [] := by
  rw [Ne, Ne, NameSet.toList_eq_nil, NameSet.toList_eq_nil, ← Classical.not_and_iff_not_or_not]
  rintro ⟨hmissing, hunexpected⟩
  refine h fun x => ⟨fun hs => ?_, fun ht => ?_⟩
  · exact Classical.not_not.1 fun ht => hunexpected x (NameSet.mem_sdiff.2 ⟨hs, ht⟩)
  · exact Classical.not_not.1 fun hs => hmissing x (NameSet.mem_sdiff.2 ⟨ht, hs⟩)

open NameSet (IsListing braced) in
/-- A tree is accepted exactly when the labels of every aggregation, at any position, are those
expected. Otherwise the report is about the first aggregation with other labels, and its four lists
show in ascending order the labels it has, those expected, those missing and those not expected. -/
theorem aggregationGroup_exact (expected : List String) (e : Expr) :
    ((aggregationGroup (.ofList expected)).check e = .ok () ↔
      ∀ p op g param body, e.at? p = some (.aggregate op g param body) →
        ∀ x, x ∈ Grouping.listed g ↔ x ∈ expected) ∧
    ∀ v, (aggregationGroup (.ofList expected)).check e = .error v →
      v.rule = "aggregation_group" ∧
      ∃ p op g param body,
        e.FirstAt (aggregationGroup (.ofList expected)).ForbiddenAt p
          (.aggregate op g param body) ∧
        ∃ grouping wanted missing unexpected,
          v.message = "aggregation '" ++ op ++ "' groups by " ++ braced grouping ++
            ", expected " ++ braced wanted ++ " (missing " ++ braced missing ++
            ", unexpected " ++ braced unexpected ++ ")" ∧
          IsListing grouping (· ∈ Grouping.listed g) ∧ IsListing wanted (· ∈ expected) ∧
          IsListing missing (fun x => x ∈ expected ∧ x ∉ Grouping.listed g) ∧
          IsListing unexpected (fun x => x ∈ Grouping.listed g ∧ x ∉ expected) ∧
          (∀ x ∈ missing, x ∉ unexpected) ∧ (missing ≠ [] ∨ unexpected ≠ []) ∧
          ∀ x, (x ∈ grouping ∧ x ∉ unexpected) ∨ x ∈ missing ↔ x ∈ expected := by
  constructor
  · simp only [check_aggregationGroup_eq_ok, NameSet.mem_ofList]
  · intro v hv
    obtain ⟨p, op, g, param, body, hfirst, rfl⟩ := exists_of_check_aggregationGroup hv
    have hne : ¬ ∀ x, x ∈ Grouping.labelSet g ↔ x ∈ NameSet.ofList expected := by
      have hforbidden := hfirst.2.1
      rw [ForbiddenAt] at hforbidden
      simpa only [Grouping.mem_labelSet] using hforbidden
    refine ⟨rfl, p, op, g, param, body, hfirst, (Grouping.labelSet g).toList,
      (NameSet.ofList expected).toList, _, _, rfl, ?_, ?_, ?_, ?_, ?_, sdiff_ne_nil hne, ?_⟩
    · exact NameSet.isListing_toList fun x => Grouping.mem_labelSet
    · exact NameSet.isListing_toList fun x => NameSet.mem_ofList
    · exact NameSet.isListing_toList fun x => by simp
    · exact NameSet.isListing_toList fun x => by simp
    · intro x hmissing hunexpected
      exact (NameSet.mem_sdiff.1 hunexpected).2 (NameSet.mem_sdiff.1 hmissing).1
    · intro x
      simp only [NameSet.mem_toList, NameSet.mem_sdiff, Grouping.mem_labelSet, NameSet.mem_ofList]
      by_cases hx : x ∈ Grouping.listed g <;> simp [hx]

/-- In `sum by (job) (max by (pod, job, job) (up))` the inner clause is reported. -/
theorem aggregationGroup_exact_nested :
    ∃ v, (aggregationGroup (.ofList ["job", "job"])).check
        (.aggregate "sum" (some (.byLabels ["job"])) none
          (.aggregate "max" (some (.byLabels ["pod", "job", "job"])) none
            (.vector ⟨some "up", [], []⟩))) = .error v ∧
      v.rule = "aggregation_group" ∧
      v.message = "aggregation 'max' groups by \x7bjob, pod\x7d, expected \x7bjob\x7d " ++
        "(missing \x7b\x7d, unexpected \x7bpod\x7d)" := by
  refine ⟨.grouping "max" (.ofList ["pod", "job", "job"]) (.ofList ["job", "job"]), ?rejected,
    ((aggregationGroup_exact _ _).2 _ ?rejected).1, by decide +kernel⟩
  rw [check, violation?_eq]
  rfl

end QueryPolicy.Policy

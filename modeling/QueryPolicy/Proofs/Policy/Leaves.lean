import QueryPolicy.Policy.Set
import QueryPolicy.Proofs.Policy.Check

/-!
# Nested sets are flat

A validator asks its policies from left to right, in whatever sets they are nested. So a set accepts
when all of its policies do, and otherwise answers as the first policy that rejects.
-/

namespace QueryPolicy

/-- The answer to a search for a violation. -/
def verdict : Option Violation → Except Violation Unit
  | none => .ok ()
  | some v => .error v

@[simp] theorem verdict_eq_ok {o : Option Violation} : verdict o = .ok () ↔ o = none := by
  cases o <;> simp [verdict]

@[simp] theorem verdict_eq_error {o : Option Violation} {v : Violation} :
    verdict o = .error v ↔ o = some v := by
  cases o <;> simp [verdict]

namespace Policy

theorem check_eq_verdict (p : Policy) (e : Expr) : p.check e = verdict (p.violation? e) := by
  rw [check]
  cases p.violation? e <;> rfl

theorem violation?_eq_none {p : Policy} {e : Expr} :
    p.violation? e = none ↔ p.check e = .ok () := by
  rw [check_eq_verdict, verdict_eq_ok]

theorem violation?_eq_some {p : Policy} {e : Expr} {v : Violation} :
    p.violation? e = some v ↔ p.check e = .error v := by
  rw [check_eq_verdict, verdict_eq_error]

theorem rule_of_nodeViolation? {p : Policy} {n : Expr} {v : Violation}
    (h : p.nodeViolation? n = some v) : v.rule = p.name := by
  cases p with
  | aggregationGroup expected =>
      obtain ⟨a, -, ha⟩ := Option.bind_eq_some_iff.1 h
      rw [groupViolation?] at ha
      split at ha
      · cases ha
      · cases ha
        rfl
  | aggregationLabelValue value =>
      obtain ⟨a, -, ha⟩ := Option.bind_eq_some_iff.1 h
      obtain ⟨found, -, rfl⟩ := Option.map_eq_some_iff.1 ha
      rfl
  | aggregationFunction blacklist =>
      obtain ⟨a, -, ha⟩ := Option.bind_eq_some_iff.1 h
      rw [aggregatorViolation?] at ha
      split at ha
      · cases ha
        rfl
      · cases ha
  | function blacklist =>
      obtain ⟨c, -, hc⟩ := Option.bind_eq_some_iff.1 h
      rw [functionViolation?] at hc
      split at hc
      · cases hc
        rfl
      · cases hc

/-- A policy reports its own violations only. -/
theorem rule_of_violation? {p : Policy} {e : Expr} {v : Violation} (h : p.violation? e = some v) :
    v.rule = p.name := by
  rw [violation?_eq] at h
  obtain ⟨n, -, hn⟩ := List.exists_of_findSome?_eq_some h
  exact rule_of_nodeViolation? hn

theorem name_ne_policy_set (p : Policy) : p.name ≠ "policy_set" := by
  cases p <;> simp [name]

end Policy

namespace Validator

mutual

/-- Nesting does not show: a validator answers as the flat list of its policies. -/
theorem check_eq_verdict (e : Expr) :
    (v : Validator) → v.check e = verdict (v.leaves.findSome? (·.violation? e))
  | policy p => by
      rw [check, leaves, List.findSome?_singleton, Policy.check_eq_verdict]
  | set members => by
      rw [check, leaves, checkAll_eq_verdict e members]

theorem checkAll_eq_verdict (e : Expr) :
    (vs : List Validator) → checkAll vs e = verdict ((leavesAll vs).findSome? (·.violation? e))
  | [] => rfl
  | v :: vs => by
      rw [checkAll, leavesAll, List.findSome?_append, check_eq_verdict e v,
        checkAll_eq_verdict e vs]
      -- The rest of the list is asked only if the first validator has nothing to report.
      cases v.leaves.findSome? (·.violation? e) with
      | none => rfl
      | some violation => rfl

end

@[simp] theorem leavesAll_map_policy (ps : List Policy) : leavesAll (ps.map .policy) = ps := by
  induction ps with
  | nil => rfl
  | cons p ps ih => rw [List.map_cons, leavesAll, leaves, ih, List.singleton_append]

theorem check_eq_ok {v : Validator} {e : Expr} :
    v.check e = .ok () ↔ ∀ p ∈ v.leaves, p.check e = .ok () := by
  rw [check_eq_verdict, verdict_eq_ok, List.findSome?_eq_none_iff]
  simp only [Policy.violation?_eq_none]

theorem check_eq_error {v : Validator} {e : Expr} {violation : Violation} :
    v.check e = .error violation ↔ ∃ before p after, v.leaves = before ++ p :: after ∧
      (∀ q ∈ before, q.check e = .ok ()) ∧ p.check e = .error violation := by
  rw [check_eq_verdict, verdict_eq_error, List.findSome?_eq_some_iff]
  simp only [Policy.violation?_eq_none, Policy.violation?_eq_some]
  constructor
  · rintro ⟨before, p, after, hleaves, hp, hbefore⟩
    exact ⟨before, p, after, hleaves, hbefore, hp⟩
  · rintro ⟨before, p, after, hleaves, hbefore, hp⟩
    exact ⟨before, p, after, hleaves, hp, hbefore⟩

end Validator

/-- A set, nested to any depth, accepts exactly when all of its policies do. It rejects with the
violation of the first policy that rejects, after all before it have accepted. So every violation
has the name of one of the policies, and never that of a set. -/
theorem PolicySet.check_eq_first_leaf (s : PolicySet) (e : Expr) :
    (s.check e = .ok () ↔ ∀ p ∈ s.toValidator.leaves, p.check e = .ok ()) ∧
    (∀ v, s.check e = .error v ↔ ∃ before p after,
      s.toValidator.leaves = before ++ p :: after ∧
      (∀ q ∈ before, q.check e = .ok ()) ∧ p.check e = .error v) ∧
    ∀ v, s.check e = .error v →
      (∃ p ∈ s.toValidator.leaves, v.rule = p.name) ∧ v.rule ≠ "policy_set" := by
  refine ⟨Validator.check_eq_ok, fun v => Validator.check_eq_error, fun v hv => ?_⟩
  obtain ⟨before, p, after, hleaves, -, hp⟩ := Validator.check_eq_error.1 hv
  have hrule : v.rule = p.name := Policy.rule_of_violation? (Policy.violation?_eq_some.2 hp)
  refine ⟨⟨p, ?_, hrule⟩, ?_⟩
  · rw [hleaves]
    exact List.mem_append_right before List.mem_cons_self
  · rw [hrule]
    exact p.name_ne_policy_set

/-- In `[[], [group, [[], function]], aggregator]` the query `sum by (job) (rate(x))` passes the
first policy and fails the others; the second one is reported. -/
theorem PolicySet.check_eq_first_leaf_nested :
    ∃ v, PolicySet.check
        ⟨[.set [], .set [.policy (.aggregationGroup (.ofList ["job"])),
            .set [.set [], .policy (.function (.ofList ["rate"]))]],
          .policy (.aggregationFunction (.ofList ["sum"]))]⟩
        (.aggregate "sum" (some (.byLabels ["job"])) none
          (.call "rate" [.vector ⟨some "x", [], []⟩])) = .error v ∧
      v.message = "using blacklisted function 'rate'" ∧ v.rule ≠ "policy_set" := by
  refine ⟨.function "rate", ?rejected, rfl, ((check_eq_first_leaf _ _).2.2 _ ?rejected).2⟩
  refine ((check_eq_first_leaf _ _).2.1 _).2 ⟨[.aggregationGroup (.ofList ["job"])],
    .function (.ofList ["rate"]), [.aggregationFunction (.ofList ["sum"])], rfl, ?_, ?_⟩
  · intro q hq
    cases List.mem_singleton.1 hq
    rw [Policy.check, Policy.violation?_eq]
    rfl
  · rw [Policy.check, Policy.violation?_eq]
    rfl

end QueryPolicy

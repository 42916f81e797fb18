import QueryPolicy.Proofs.Expr.Skeleton
import QueryPolicy.Proofs.Policy.Leaves

/-!
# What carries policy meaning

Every policy can be checked on the skeleton of a tree alone. Trees with one skeleton therefore get
one answer from every validator, and a query cannot get around a policy by being written otherwise.
-/

namespace QueryPolicy

/-! ## Policies on skeletons -/

/-- The first matcher of a mark that passes a test. -/
def Mark.firstMatcher? (test : LabelMatcher → Bool) : Mark → Option LabelMatcher
  | selector matchers => matchers.find? test
  | _ => none

theorem Expr.firstMatcher?_eq (test : LabelMatcher → Bool) (n : Expr) :
    n.firstMatcher? test = n.mark?.bind (Mark.firstMatcher? test) := by
  cases n with
  | vector s | matrix s _ =>
      rw [firstMatcher?, selector?, mark?, Option.bind_some, Option.bind_some, Mark.firstMatcher?,
        ← List.find?_flatten, s.flatten_groups]
  | _ => rfl

/-- The search for a matcher needs the skeleton only. -/
theorem Expr.find?_matchers_skeleton (e : Expr) (test : LabelMatcher → Bool) :
    (e.matchers.find? (test ∘ Prod.fst)).map Prod.fst =
      (Mark.preorderAll e.skeleton).findSome? (Mark.firstMatcher? test) := by
  rw [find?_matchers, preorderAll_skeleton, findSome?_filterMap]
  exact congrArg (e.preorder.findSome? ·) (funext fun n => n.firstMatcher?_eq test)

namespace Policy

/-- The violation at a mark. -/
def markViolation? : Policy → Mark → Option Violation
  | aggregationGroup expected, .aggregation op labels _ _ =>
    if labels = expected then none else some (.grouping op labels expected)
  | aggregationLabelValue value, .aggregation op labels _ body =>
    ((Mark.preorderAll body).findSome? (Mark.firstMatcher? fun m =>
      m.selectsValue value && m.name ∉ labels)).map fun m => .labelValue op labels m value
  | aggregationFunction blacklist, .aggregation op _ _ _ =>
    if op ∈ blacklist then some (.aggregator op) else none
  | function blacklist, .call name _ => if name ∈ blacklist then some (.function name) else none
  | _, _ => none

theorem nodeViolation?_eq_mark (p : Policy) (n : Expr) :
    p.nodeViolation? n = n.mark?.bind p.markViolation? := by
  cases p with
  | aggregationLabelValue value =>
      cases n with
      | aggregate op g param body =>
          rw [nodeViolation?, Expr.aggregation?, Option.bind_some, labelValueViolation?_eq,
            Expr.mark?, Option.bind_some, markViolation?, ← Expr.find?_matchers_skeleton,
            Option.map_map]
          rfl
      | _ => rfl
  | _ => cases n <;> rfl

/-- A policy looks for its violation in the skeleton. -/
theorem violation?_eq_skeleton (p : Policy) (e : Expr) :
    p.violation? e = (Mark.preorderAll e.skeleton).findSome? p.markViolation? := by
  rw [violation?_eq, Expr.preorderAll_skeleton, Expr.findSome?_filterMap]
  exact congrArg (e.preorder.findSome? ·) (funext p.nodeViolation?_eq_mark)

end Policy

namespace Validator

theorem check_eq_of_skeleton_eq {e e' : Expr} (h : e.skeleton = e'.skeleton) (v : Validator) :
    v.check e = v.check e' := by
  rw [check_eq_verdict, check_eq_verdict]
  simp only [Policy.violation?_eq_skeleton, h]

/-- Two trees with the same skeleton get the same answer, with its rule and message, from every
validator. So do two trees of which one arises from the other by changes, at any places and any
number of them, of what carries no meaning. -/
theorem check_respects_skeleton (e e' : Expr) :
    (e.skeleton = e'.skeleton → ∀ v : Validator, v.check e = v.check e') ∧
    (Relation.EqvGen Rephrased e e' → ∀ v : Validator, v.check e = v.check e') := by
  refine ⟨check_eq_of_skeleton_eq, fun hchanges => ?_⟩
  have hskeleton : e.skeleton = e'.skeleton := skeleton_eq_of_rephrased hchanges
  exact check_eq_of_skeleton_eq hskeleton

/-- `sum by (a, b) (x{c="v", d="w"})` gets the answer of
`(sum without (b, a, b) (x{c="v", d="w"}))`, and of
`(sum without (b, a, b) (-{c="v" or d="w"}[1m] + 2))`. -/
theorem check_respects_skeleton_sum :
    let body : Expr := .vector ⟨some "x", [⟨"c", .equal, "v"⟩, ⟨"d", .equal, "w"⟩], []⟩
    let body' : Expr := .binary "+"
      (.unary (.matrix ⟨none, [], [[⟨"c", .equal, "v"⟩], [⟨"d", .equal, "w"⟩]]⟩ ⟨60000000000⟩))
      (.number ⟨0x4000000000000000⟩)
    let query : Expr := .aggregate "sum" (some (.byLabels ["a", "b"])) none body
    (∀ v : Validator, v.check query =
      v.check (.paren (.aggregate "sum" (some (.withoutLabels ["b", "a", "b"])) none body))) ∧
    ∀ v : Validator, v.check query =
      v.check (.paren (.aggregate "sum" (some (.withoutLabels ["b", "a", "b"])) none body')) := by
  intro body body' query
  refine ⟨(check_respects_skeleton _ _).2 ?_, (check_respects_skeleton _ _).1 rfl⟩
  refine .trans _ _ _ (.rel _ _ ⟨[], _, _, .clause _ _ _ _ _ fun x => ?_, rfl, rfl⟩)
    (.symm _ _ (.rel _ _ ⟨[], _, _, .paren _, rfl, rfl⟩))
  show x ∈ ["a", "b"] ↔ x ∈ ["b", "a", "b"]
  grind

end Validator

end QueryPolicy

import QueryPolicy.Policy.Basic
import QueryPolicy.Proofs.Expr.Matcher
import QueryPolicy.Proofs.NameSet

/-!
# What a policy forbids

Each policy forbids something at single nodes. A check accepts a tree exactly when nothing is
forbidden at any position, and otherwise reports the node with the least position.
-/

namespace QueryPolicy

/-- A node with a property, at the least position that has such a node. -/
def Expr.FirstAt (e : Expr) (P : Expr → Prop) (p : Position) (n : Expr) : Prop :=
  e.at? p = some n ∧ P n ∧ ∀ q m, e.at? q = some m → P m → p ≤ q

/-- A matcher that selects the value, of a label that is not among the given ones. -/
def LabelMatcher.Uncovered (value : String) (labels : List String) (m : LabelMatcher) : Prop :=
  (m.op = .equal ∨ m.op = .regexMatch) ∧ m.value = value ∧ m.name ∉ labels

theorem LabelMatcher.selectsValue_iff {m : LabelMatcher} {value : String} :
    m.selectsValue value = true ↔ (m.op = .equal ∨ m.op = .regexMatch) ∧ m.value = value := by
  obtain ⟨name, op, value'⟩ := m
  cases op <;> simp [selectsValue]

namespace Policy

/-- What a policy forbids at a node. -/
def ForbiddenAt : Policy → Expr → Prop
  | aggregationGroup expected, .aggregate _ g _ _ =>
    ¬ ∀ x, x ∈ Grouping.listed g ↔ x ∈ expected
  | aggregationLabelValue value, .aggregate _ g _ body =>
    ∃ o m, body.matcherAt? o = some m ∧ m.Uncovered value (Grouping.listed g)
  | aggregationFunction blacklist, .aggregate op _ _ _ => op ∈ blacklist
  | function blacklist, .call name _ => name ∈ blacklist
  | _, _ => False

/-- The violation at a node by itself. -/
def nodeViolation? : Policy → Expr → Option Violation
  | aggregationGroup expected, n => n.aggregation?.bind (groupViolation? expected)
  | aggregationLabelValue value, n => n.aggregation?.bind (labelValueViolation? value)
  | aggregationFunction blacklist, n => n.aggregation?.bind (aggregatorViolation? blacklist)
  | function blacklist, n => n.call?.bind (functionViolation? blacklist)

theorem violation?_eq (p : Policy) (e : Expr) :
    p.violation? e = e.preorder.findSome? p.nodeViolation? := by
  cases p <;>
    simp only [violation?, Expr.aggregations, Expr.calls, Expr.toList_walk,
      Expr.findSome?_filterMap] <;> rfl

/-! ## One node -/

/-- The test of the label value policy on one matcher. -/
def isUncovered (value : String) (g : Option Grouping) (m : LabelMatcher) : Bool :=
  m.selectsValue value && decide (m.name ∉ Grouping.labelSet g)

theorem isUncovered_iff {value : String} {g : Option Grouping} {m : LabelMatcher} :
    isUncovered value g m = true ↔ m.Uncovered value (Grouping.listed g) := by
  rw [isUncovered, Bool.and_eq_true, decide_eq_true_iff, LabelMatcher.selectsValue_iff,
    Grouping.mem_labelSet, LabelMatcher.Uncovered, and_assoc]

theorem labelValueViolation?_eq (value op : String) (g : Option Grouping) (param : Option Expr)
    (body : Expr) : labelValueViolation? value ⟨op, g, param, body⟩ =
      (body.matchers.find? (isUncovered value g ∘ Prod.fst)).map fun found =>
        .labelValue op (Grouping.labelSet g) found.1 value := rfl

theorem labelValueViolation?_eq_none {value op : String} {g : Option Grouping}
    {param : Option Expr} {body : Expr} :
    labelValueViolation? value ⟨op, g, param, body⟩ = none ↔
      ∀ o m, body.matcherAt? o = some m → ¬ m.Uncovered value (Grouping.listed g) := by
  rw [labelValueViolation?_eq, Option.map_eq_none_iff, Expr.find?_matchers_eq_none]
  simp only [← isUncovered_iff, Bool.not_eq_true]

/-- The violation of an aggregation names the first matcher of its body that is not covered. -/
theorem exists_of_labelValueViolation? {value op : String} {g : Option Grouping}
    {param : Option Expr} {body : Expr} {v : Violation}
    (h : labelValueViolation? value ⟨op, g, param, body⟩ = some v) :
    ∃ o m, body.matcherAt? o = some m ∧ m.Uncovered value (Grouping.listed g) ∧
      (∀ o' m', body.matcherAt? o' = some m' → m'.Uncovered value (Grouping.listed g) → o ≤ o') ∧
      v = .labelValue op (Grouping.labelSet g) m value := by
  rw [labelValueViolation?_eq] at h
  obtain ⟨found, hfound, rfl⟩ := Option.map_eq_some_iff.1 h
  obtain ⟨o, ho, htest, hleast⟩ := Expr.exists_of_find?_matchers hfound
  exact ⟨o, found.1, ho, isUncovered_iff.1 htest,
    fun o' m' hm' huncovered => hleast o' m' hm' (isUncovered_iff.2 huncovered), rfl⟩

theorem groupViolation?_eq_none {expected : NameSet} {op : String} {g : Option Grouping}
    {param : Option Expr} {body : Expr} :
    groupViolation? expected ⟨op, g, param, body⟩ = none ↔
      ∀ x, x ∈ Grouping.listed g ↔ x ∈ expected := by
  have hlabels : Grouping.labelSet g = expected ↔ ∀ x, x ∈ Grouping.listed g ↔ x ∈ expected := by
    rw [NameSet.eq_iff]
    simp only [Grouping.mem_labelSet]
  rw [← hlabels, groupViolation?]
  split
  · exact iff_of_true rfl ‹_›
  · exact iff_of_false (Option.some_ne_none _) ‹_›

/-- A node has a violation exactly when something is forbidden there. -/
theorem nodeViolation?_eq_none {p : Policy} {n : Expr} :
    p.nodeViolation? n = none ↔ ¬ p.ForbiddenAt n := by
  cases p with
  | aggregationGroup expected =>
      cases n with
      | aggregate op g param body =>
          rw [nodeViolation?, Expr.aggregation?, Option.bind_some, groupViolation?_eq_none,
            ForbiddenAt, Classical.not_not]
      | _ => simp [nodeViolation?, Expr.aggregation?, ForbiddenAt]
  | aggregationLabelValue value =>
      cases n with
      | aggregate op g param body =>
          rw [nodeViolation?, Expr.aggregation?, Option.bind_some, labelValueViolation?_eq_none,
            ForbiddenAt]
          simp only [not_exists, not_and]
      | _ => simp [nodeViolation?, Expr.aggregation?, ForbiddenAt]
  | aggregationFunction blacklist =>
      cases n with
      | aggregate op g param body =>
          simp [nodeViolation?, Expr.aggregation?, aggregatorViolation?, ForbiddenAt]
      | _ => simp [nodeViolation?, Expr.aggregation?, ForbiddenAt]
  | function blacklist =>
      cases n with
      | call name args => simp [nodeViolation?, Expr.call?, functionViolation?, ForbiddenAt]
      | _ => simp [nodeViolation?, Expr.call?, ForbiddenAt]

theorem isSome_nodeViolation? {p : Policy} {n : Expr} :
    (p.nodeViolation? n).isSome ↔ p.ForbiddenAt n := by
  rw [Option.isSome_iff_ne_none, Ne, nodeViolation?_eq_none, Classical.not_not]

/-! ## The whole tree -/

/-- A tree is accepted exactly when nothing is forbidden at any position. -/
theorem check_eq_ok {p : Policy} {e : Expr} :
    p.check e = .ok () ↔ ∀ q n, e.at? q = some n → ¬ p.ForbiddenAt n := by
  have hnone : p.check e = .ok () ↔ p.violation? e = none := by
    rw [check]
    cases p.violation? e <;> simp
  rw [hnone, violation?_eq, Expr.findSome?_preorder_eq_none]
  simp only [nodeViolation?_eq_none]

/-- A tree is rejected with the violation of the first node where something is forbidden. -/
theorem exists_of_check_eq_error {p : Policy} {e : Expr} {v : Violation}
    (h : p.check e = .error v) :
    ∃ q n, e.FirstAt p.ForbiddenAt q n ∧ p.nodeViolation? n = some v := by
  have hsome : p.violation? e = some v := by
    rw [check] at h
    cases hv : p.violation? e with
    | none => rw [hv] at h; cases h
    | some v' => rw [hv] at h; cases h; rfl
  rw [violation?_eq] at hsome
  obtain ⟨q, n, hn, hv, hleast⟩ := Expr.exists_of_findSome?_preorder hsome
  refine ⟨q, n, ⟨hn, ?_, fun q' n' hn' hforbidden => ?_⟩, hv⟩
  · exact isSome_nodeViolation?.1 (by rw [hv]; rfl)
  · exact hleast q' n' hn' (isSome_nodeViolation?.2 hforbidden)

end Policy

end QueryPolicy

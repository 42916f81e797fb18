import QueryPolicy.Proofs.Policy.Blacklist
import QueryPolicy.Proofs.Policy.Grouping
import QueryPolicy.Proofs.Policy.LabelValue
import QueryPolicy.Proofs.Policy.Leaves

/-!
# The meaning of a configuration

A configuration says four things about a tree, one for each entry. Its policy set accepts a tree
when all four hold, and otherwise reports the first that does not, in the order of the entries. An
entry that is absent, or a blacklist without names, says nothing.
-/

namespace QueryPolicy

/-! ## The four conditions -/

namespace Config

variable (c : Config) (e : Expr)

/-- Every aggregation groups by exactly the configured labels. -/
def GroupHolds : Prop :=
  ∀ labels, c.aggregationGroup = some labels →
    ∀ p op g param body, e.at? p = some (.aggregate op g param body) →
      ∀ x, x ∈ Grouping.listed g ↔ x ∈ labels

/-- Every aggregation keeps the label of each matcher in its body that selects the configured
value. -/
def LabelValueHolds : Prop :=
  ∀ value, c.aggregationLabelValue = some value →
    ∀ p op g param body, e.at? p = some (.aggregate op g param body) →
      ∀ o m, body.matcherAt? o = some m → (m.op = .equal ∨ m.op = .regexMatch) →
        m.value = value → m.name ∈ Grouping.listed g

/-- No aggregation operator is blacklisted. -/
def AggregatorsHold : Prop :=
  ∀ p op g param body, e.at? p = some (.aggregate op g param body) →
    op ∉ c.blacklistedAggregators

/-- No function is blacklisted. -/
def FunctionsHold : Prop :=
  ∀ p name args, e.at? p = some (.call name args) → name ∉ c.blacklistedFunctions

end Config

/-! ## All entries in order -/

/-- The first violation in the order of the entries. -/
def Config.violation? (c : Config) (e : Expr) : Option Violation :=
  (c.aggregationGroup.bind fun labels => (Policy.aggregationGroup labels).violation? e).or <|
    (c.aggregationLabelValue.bind fun value =>
      (Policy.aggregationLabelValue value).violation? e).or <|
    ((Policy.aggregationFunction c.blacklistedAggregators).violation? e).or <|
    (Policy.function c.blacklistedFunctions).violation? e

namespace Config

variable {c : Config} {e : Expr}

theorem group_eq_none :
    (c.aggregationGroup.bind fun labels => (Policy.aggregationGroup labels).violation? e) = none ↔
      c.GroupHolds e := by
  rw [Option.bind_eq_none_iff]
  simp only [Policy.violation?_eq_none, Policy.check_aggregationGroup_eq_ok]
  rfl

theorem labelValue_eq_none :
    (c.aggregationLabelValue.bind fun value =>
        (Policy.aggregationLabelValue value).violation? e) = none ↔ c.LabelValueHolds e := by
  rw [Option.bind_eq_none_iff]
  simp only [Policy.violation?_eq_none, Policy.check_aggregationLabelValue_eq_ok]
  rfl

theorem aggregators_eq_none :
    (Policy.aggregationFunction c.blacklistedAggregators).violation? e = none ↔
      c.AggregatorsHold e := by
  rw [Policy.violation?_eq_none, Policy.check_aggregationFunction_eq_ok]
  rfl

theorem functions_eq_none :
    (Policy.function c.blacklistedFunctions).violation? e = none ↔ c.FunctionsHold e := by
  rw [Policy.violation?_eq_none, Policy.check_function_eq_ok]
  rfl

theorem violation?_eq_none :
    c.violation? e = none ↔
      c.GroupHolds e ∧ c.LabelValueHolds e ∧ c.AggregatorsHold e ∧ c.FunctionsHold e := by
  rw [violation?, Option.or_eq_none_iff, Option.or_eq_none_iff, Option.or_eq_none_iff,
    group_eq_none, labelValue_eq_none, aggregators_eq_none, functions_eq_none]

/-- A violation is that of the first entry whose condition fails. -/
theorem rule_of_violation? {v : Violation} (h : c.violation? e = some v) :
    (v.rule = "aggregation_group" ∧ ¬ c.GroupHolds e) ∨
    (v.rule = "aggregation_label_value" ∧ c.GroupHolds e ∧ ¬ c.LabelValueHolds e) ∨
    (v.rule = "aggregation_function" ∧ c.GroupHolds e ∧ c.LabelValueHolds e ∧
      ¬ c.AggregatorsHold e) ∨
    (v.rule = "function" ∧ c.GroupHolds e ∧ c.LabelValueHolds e ∧ c.AggregatorsHold e ∧
      ¬ c.FunctionsHold e) := by
  simp only [violation?, Option.or_eq_some_iff] at h
  simp only [← group_eq_none, ← labelValue_eq_none, ← aggregators_eq_none, ← functions_eq_none]
  rcases h with hgroup | ⟨hgroup, hvalue | ⟨hvalue, haggregators | ⟨haggregators, hfunctions⟩⟩⟩
  · refine Or.inl ⟨?_, by simp [hgroup]⟩
    obtain ⟨labels, -, hv⟩ := Option.bind_eq_some_iff.1 hgroup
    exact Policy.rule_of_violation? hv
  · refine Or.inr (Or.inl ⟨?_, hgroup, by simp [hvalue]⟩)
    obtain ⟨value, -, hv⟩ := Option.bind_eq_some_iff.1 hvalue
    exact Policy.rule_of_violation? hv
  · refine Or.inr (Or.inr (Or.inl ⟨?_, hgroup, hvalue, by simp [haggregators]⟩))
    exact Policy.rule_of_violation? haggregators
  · refine Or.inr (Or.inr (Or.inr ⟨?_, hgroup, hvalue, haggregators, by simp [hfunctions]⟩))
    exact Policy.rule_of_violation? hfunctions

end Config

/-! ## The set of a configuration -/

namespace PolicySet

theorem check_of_policies (ps : List Policy) (e : Expr) :
    PolicySet.check ⟨ps.map .policy⟩ e = verdict (ps.findSome? (·.violation? e)) := by
  rw [check, toValidator, Validator.check_eq_verdict, Validator.leaves,
    Validator.leavesAll_map_policy]

theorem findSome?_optional {α : Type} (o : Option α) (policy : α → Policy) (e : Expr) :
    (o.map policy).toList.findSome? (·.violation? e) = o.bind fun a => (policy a).violation? e := by
  cases o <;> simp

/-- A policy that accepts everything when it has no names can then be left out. -/
theorem findSome?_blacklist {policy : NameSet → Policy} {e : Expr}
    (h : (policy ∅).violation? e = none) (names : NameSet) :
    (if names.isEmpty then [] else [policy names]).findSome? (·.violation? e) =
      (policy names).violation? e := by
  split
  · rename_i hempty
    rw [NameSet.eq_empty_of_isEmpty hempty, h, List.findSome?_nil]
  · rw [List.findSome?_singleton]

theorem check_ofConfig (c : Config) (e : Expr) :
    (ofConfig c).check e = verdict (c.violation? e) := by
  have haggregators : (Policy.aggregationFunction ∅).violation? e = none := by
    rw [Policy.violation?_eq_none, Policy.check_aggregationFunction_eq_ok]
    exact fun _ op _ _ _ _ => NameSet.not_mem_empty op
  have hfunctions : (Policy.function ∅).violation? e = none := by
    rw [Policy.violation?_eq_none, Policy.check_function_eq_ok]
    exact fun _ name _ _ => NameSet.not_mem_empty name
  rw [ofConfig, check_of_policies, policiesOfConfig, List.findSome?_append, List.findSome?_append,
    List.findSome?_append, findSome?_optional, findSome?_optional, findSome?_blacklist haggregators,
    findSome?_blacklist hfunctions, Option.or_assoc, Option.or_assoc, Config.violation?]

/-- All policies in order: the optional ones when they are present, and the blacklists even when
they are empty. -/
def policiesInFull (c : Config) : List Policy :=
  (c.aggregationGroup.map .aggregationGroup).toList ++
    (c.aggregationLabelValue.map .aggregationLabelValue).toList ++
    [.aggregationFunction c.blacklistedAggregators, .function c.blacklistedFunctions]

def pushAll (s : PolicySet) (ps : List Policy) : PolicySet :=
  ps.foldl (fun s p => s.push (.policy p)) s

theorem members_pushAll (s : PolicySet) (ps : List Policy) :
    (s.pushAll ps).members = s.members ++ ps.map .policy := by
  induction ps generalizing s with
  | nil => simp [pushAll]
  | cons p ps ih =>
      rw [pushAll, List.foldl_cons, ← pushAll, ih, push, List.map_cons, List.append_assoc,
        List.singleton_append]

theorem check_pushAll_policiesInFull (c : Config) (e : Expr) :
    (pushAll ∅ (policiesInFull c)).check e = verdict (c.violation? e) := by
  have hset : pushAll ∅ (policiesInFull c) = ⟨(policiesInFull c).map .policy⟩ :=
    congrArg PolicySet.mk (members_pushAll ∅ _)
  rw [hset, check_of_policies, policiesInFull, List.findSome?_append, List.findSome?_append,
    findSome?_optional, findSome?_optional, List.findSome?_cons, List.findSome?_singleton,
    Option.or_assoc, Config.violation?]
  cases (Policy.aggregationFunction c.blacklistedAggregators).violation? e <;> rfl

theorem isEmpty_ofConfig (c : Config) : (ofConfig c).isEmpty = c.isEmpty := by
  rw [Bool.eq_iff_iff, isEmpty, ofConfig, List.isEmpty_iff, List.map_eq_nil_iff, policiesOfConfig]
  simp [Config.isEmpty, and_assoc]

/-- The set of a configuration accepts a tree exactly when the conditions of all four entries hold.
It rejects with the rule of the first entry whose condition fails, wherever in the tree that is.
Policies of empty blacklists can be added to it without effect, and it is empty exactly when the
configuration is. -/
theorem ofConfig_meaning (c : Config) :
    (∀ e, (ofConfig c).check e = .ok () ↔
      c.GroupHolds e ∧ c.LabelValueHolds e ∧ c.AggregatorsHold e ∧ c.FunctionsHold e) ∧
    (∀ e v, (ofConfig c).check e = .error v →
      (v.rule = "aggregation_group" ∧ ¬ c.GroupHolds e) ∨
      (v.rule = "aggregation_label_value" ∧ c.GroupHolds e ∧ ¬ c.LabelValueHolds e) ∨
      (v.rule = "aggregation_function" ∧ c.GroupHolds e ∧ c.LabelValueHolds e ∧
        ¬ c.AggregatorsHold e) ∨
      (v.rule = "function" ∧ c.GroupHolds e ∧ c.LabelValueHolds e ∧ c.AggregatorsHold e ∧
        ¬ c.FunctionsHold e)) ∧
    (∀ e, (ofConfig c).check e = (pushAll ∅ (policiesInFull c)).check e) ∧
    (ofConfig c).isEmpty = c.isEmpty := by
  refine ⟨fun e => ?_, fun e v hv => ?_, fun e => ?_, isEmpty_ofConfig c⟩
  · rw [check_ofConfig, verdict_eq_ok, Config.violation?_eq_none]
  · rw [check_ofConfig, verdict_eq_error] at hv
    exact Config.rule_of_violation? hv
  · rw [check_ofConfig, check_pushAll_policiesInFull]

/-- In `abs(sum(x))` the blacklisted function stands at an earlier node than the blacklisted
operator, but operators come first in the configuration. -/
theorem ofConfig_meaning_abs_sum :
    let c : Config :=
      { blacklistedAggregators := .ofList ["sum"], blacklistedFunctions := .ofList ["abs"] }
    let e : Expr := .call "abs" [.aggregate "sum" none none (.vector ⟨some "x", [], []⟩)]
    ∃ v, (ofConfig c).check e = .error v ∧ v.rule = "aggregation_function" ∧
      ¬ c.AggregatorsHold e ∧ ¬ c.FunctionsHold e := by
  intro c e
  have hrejected : (ofConfig c).check e = .error (.aggregator "sum") := by cbv
  refine ⟨_, hrejected, rfl, ?_, fun h => h [] "abs" _ rfl (by decide)⟩
  rcases (ofConfig_meaning c).2.1 e _ hrejected with
    ⟨h, -⟩ | ⟨h, -⟩ | ⟨-, -, -, h⟩ | ⟨h, -⟩
  · exact absurd h (by decide)
  · exact absurd h (by decide)
  · exact h
  · exact absurd h (by decide)

end PolicySet

end QueryPolicy

import QueryPolicy.Proofs.Policy.Check

/-!
# The label value policy

An aggregation keeps the label of every matcher in its body that selects the guarded value. The body
is searched through all that is nested in it, parameters of inner aggregations included; the
aggregation's own parameter is not.
-/

namespace QueryPolicy.Policy

theorem check_aggregationLabelValue_eq_ok {value : String} {e : Expr} :
    (aggregationLabelValue value).check e = .ok () ↔
      ∀ p op g param body, e.at? p = some (.aggregate op g param body) →
        ∀ o m, body.matcherAt? o = some m → (m.op = .equal ∨ m.op = .regexMatch) →
          m.value = value → m.name ∈ Grouping.listed g := by
  rw [check_eq_ok]
  constructor
  · intro h p op g param body hn o m hm hop hvalue
    refine Classical.not_not.1 fun hname => h p _ hn ?_
    exact ⟨o, m, hm, hop, hvalue, hname⟩
  · intro h p n hn hforbidden
    cases n with
    | aggregate op g param body =>
        obtain ⟨o, m, hm, hop, hvalue, hname⟩ := hforbidden
        exact hname (h p op g param body hn o m hm hop hvalue)
    | _ => exact hforbidden

theorem exists_of_check_aggregationLabelValue {value : String} {e : Expr} {v : Violation}
    (h : (aggregationLabelValue value).check e = .error v) :
    ∃ p op g param body,
      e.FirstAt (aggregationLabelValue value).ForbiddenAt p (.aggregate op g param body) ∧
      ∃ o m, body.matcherAt? o = some m ∧ m.Uncovered value (Grouping.listed g) ∧
        (∀ o' m', body.matcherAt? o' = some m' → m'.Uncovered value (Grouping.listed g) → o ≤ o') ∧
        v = .labelValue op (Grouping.labelSet g) m value := by
  obtain ⟨p, n, hfirst, hnode⟩ := exists_of_check_eq_error h
  cases n with
  | aggregate op g param body =>
      exact ⟨p, op, g, param, body, hfirst, exists_of_labelValueViolation? hnode⟩
  | _ => cases hnode

open NameSet (IsListing braced) in
/-- A tree is accepted exactly when every aggregation, at any position, keeps the label of every
matcher in its body that selects the value. Otherwise the report is about the first aggregation that
does not, and names the first matcher in its body whose label is lost. -/
theorem aggregationLabelValue_exact (value : String) (e : Expr) :
    ((aggregationLabelValue value).check e = .ok () ↔
      ∀ p op g param body, e.at? p = some (.aggregate op g param body) →
        ∀ o m, body.matcherAt? o = some m → (m.op = .equal ∨ m.op = .regexMatch) →
          m.value = value → m.name ∈ Grouping.listed g) ∧
    ∀ v, (aggregationLabelValue value).check e = .error v →
      v.rule = "aggregation_label_value" ∧
      ∃ p op g param body,
        e.FirstAt (aggregationLabelValue value).ForbiddenAt p (.aggregate op g param body) ∧
        ∃ o m, body.matcherAt? o = some m ∧ m.Uncovered value (Grouping.listed g) ∧
          (∀ o' m', body.matcherAt? o' = some m' → m'.Uncovered value (Grouping.listed g) →
            o ≤ o') ∧
          ∃ labels, IsListing labels (· ∈ Grouping.listed g) ∧
            v.message = "label '" ++ m.name ++ "' selecting value '" ++ value ++ "' (" ++
              m.render ++ ") is not in the grouping " ++ braced labels ++
              " of aggregation '" ++ op ++ "'" := by
  refine ⟨check_aggregationLabelValue_eq_ok, fun v hv => ?_⟩
  obtain ⟨p, op, g, param, body, hfirst, o, m, hm, huncovered, hleast, rfl⟩ :=
    exists_of_check_aggregationLabelValue hv
  refine ⟨rfl, p, op, g, param, body, hfirst, o, m, hm, huncovered, hleast, ?_⟩
  exact ⟨_, NameSet.isListing_toList fun x => Grouping.mem_labelSet, rfl⟩

/-- In `max by (job, c) (topk by (job) (max(x{b="v"}), {job="v" or a!="v", c=~"v"}[1m]))` all three
aggregations lose a label. The outermost is reported, for the matcher in the parameter of `topk`. -/
theorem aggregationLabelValue_exact_nested :
    ∃ v, (aggregationLabelValue "v").check
        (.aggregate "max" (some (.byLabels ["job", "c"])) none
          (.aggregate "topk" (some (.byLabels ["job"]))
            (some (.aggregate "max" none none (.vector ⟨some "x", [⟨"b", .equal, "v"⟩], []⟩)))
            (.matrix ⟨none, [],
              [[⟨"job", .equal, "v"⟩], [⟨"a", .notEqual, "v"⟩, ⟨"c", .regexMatch, "v"⟩]]⟩
              ⟨60000000000⟩))) = .error v ∧
      v.rule = "aggregation_label_value" ∧
      v.message = "label 'b' selecting value 'v' (b=\x22v\x22) is not in the grouping " ++
        "\x7bc, job\x7d of aggregation 'max'" := by
  refine ⟨.labelValue "max" (.ofList ["job", "c"]) ⟨"b", .equal, "v"⟩ "v", ?rejected,
    ((aggregationLabelValue_exact _ _).2 _ ?rejected).1, by decide +kernel⟩
  cbv

end QueryPolicy.Policy

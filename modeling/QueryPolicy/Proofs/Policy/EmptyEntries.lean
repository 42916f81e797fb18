import QueryPolicy.Proofs.Policy.Configured

/-!
# Empty entries

An empty blacklist forbids nothing. An empty optional entry is no such thing: an empty group forbids
every label of a clause, and an empty label value guards the labels that are matched with the empty
text. So to leave the empty entries out can change an answer, and it does exactly when one of them
rejects the tree and no entry before it does.
-/

namespace QueryPolicy

/-- The configuration with empty optional entries left out. -/
def Config.withoutEmpty (c : Config) : Config :=
  { c with
    aggregationGroup := if c.aggregationGroup = some ∅ then none else c.aggregationGroup
    aggregationLabelValue :=
      if c.aggregationLabelValue = some "" then none else c.aggregationLabelValue }

/-- What an empty optional entry has to report. -/
def Violation.OfEmptyEntry : Violation → Prop
  | grouping _ _ expected => expected = ∅
  | labelValue _ _ _ value => value = ""
  | aggregator _ | function _ => False

theorem verdict_inj {o o' : Option Violation} : verdict o = verdict o' ↔ o = o' := by
  cases o <;> cases o' <;> simp [verdict]

namespace Config

variable {c : Config} {e : Expr}

/-- No empty entry has anything to report, unless the entry before it has. -/
def EmptyEntriesHold (c : Config) (e : Expr) : Prop :=
  (c.aggregationGroup = some ∅ → c.GroupHolds e) ∧
    (c.aggregationLabelValue = some "" → c.GroupHolds e → c.LabelValueHolds e)

theorem groupHolds_withoutEmpty (h : c.GroupHolds e) : c.withoutEmpty.GroupHolds e := by
  intro labels hlabels
  rw [withoutEmpty] at hlabels
  split at hlabels
  · cases hlabels
  · exact h labels hlabels

/-- The first entry that rejects is no empty one, so it rejects without these as well. -/
theorem violation?_withoutEmpty_of_hold (h : c.EmptyEntriesHold e) :
    c.withoutEmpty.violation? e = c.violation? e := by
  by_cases hgroup : c.GroupHolds e
  · rw [violation?, violation?, group_eq_none.2 hgroup,
      group_eq_none.2 (groupHolds_withoutEmpty hgroup)]
    by_cases hvalue : c.aggregationLabelValue = some ""
    · rw [labelValue_eq_none.2 (h.2 hvalue hgroup)]
      simp only [withoutEmpty, hvalue, if_true, Option.bind_none]
    · simp only [withoutEmpty, hvalue, if_false]
  · have hne : c.aggregationGroup ≠ some ∅ := fun hempty => hgroup (h.1 hempty)
    obtain ⟨v, hv⟩ := Option.ne_none_iff_exists'.1 (mt group_eq_none.1 hgroup)
    simp only [violation?, withoutEmpty, hne, if_false, hv, Option.some_or]

/-- An entry that is the first to reject, and is empty, reports as an empty one. -/
theorem violation?_of_not_hold (h : ¬ c.EmptyEntriesHold e) :
    ∃ v, c.violation? e = some v ∧ v.OfEmptyEntry := by
  rw [EmptyEntriesHold, Classical.not_and_iff_not_or_not, Classical.not_imp, Classical.not_imp,
    Classical.not_imp] at h
  rcases h with ⟨hempty, hgroup⟩ | ⟨hempty, hgroup, hvalue⟩
  · obtain ⟨v, hv⟩ := Option.ne_none_iff_exists'.1 (mt group_eq_none.1 hgroup)
    refine ⟨v, by rw [violation?, hv, Option.some_or], ?_⟩
    rw [hempty, Option.bind_some, Policy.violation?_eq_some] at hv
    obtain ⟨-, -, -, -, -, -, rfl⟩ := Policy.exists_of_check_aggregationGroup hv
    rfl
  · obtain ⟨v, hv⟩ := Option.ne_none_iff_exists'.1 (mt labelValue_eq_none.1 hvalue)
    refine ⟨v, by rw [violation?, group_eq_none.2 hgroup, hv, Option.none_or, Option.some_or], ?_⟩
    rw [hempty, Option.bind_some, Policy.violation?_eq_some] at hv
    obtain ⟨-, -, -, -, -, -, -, -, -, -, -, rfl⟩ := Policy.exists_of_check_aggregationLabelValue hv
    rfl

/-- Without empty entries no report is that of an empty one. -/
theorem not_ofEmptyEntry_of_withoutEmpty {v : Violation}
    (h : c.withoutEmpty.violation? e = some v) : ¬ v.OfEmptyEntry := by
  simp only [violation?, Option.or_eq_some_iff, Option.bind_eq_some_iff,
    Policy.violation?_eq_some] at h
  rcases h with ⟨labels, hlabels, hv⟩ | ⟨-, ⟨value, hvalue, hv⟩ | ⟨-, hv | ⟨-, hv⟩⟩⟩
  · obtain ⟨-, -, -, -, -, -, rfl⟩ := Policy.exists_of_check_aggregationGroup hv
    rintro (rfl : labels = ∅)
    simp [withoutEmpty] at hlabels
  · obtain ⟨-, -, -, -, -, -, -, -, -, -, -, rfl⟩ := Policy.exists_of_check_aggregationLabelValue hv
    rintro (rfl : value = "")
    simp [withoutEmpty] at hvalue
  · obtain ⟨-, -, -, -, -, -, rfl⟩ := Policy.exists_of_check_aggregationFunction hv
    exact id
  · obtain ⟨-, -, -, -, rfl⟩ := Policy.exists_of_check_function hv
    exact id

end Config

namespace PolicySet

/-- To leave the empty optional entries out keeps the answer to a tree exactly when none of them is
the first entry to reject it. When it does not, the configuration rejects the tree with the report
of an empty entry, and without these the tree gets another answer. -/
theorem check_withoutEmpty_iff (c : Config) (e : Expr) :
    ((ofConfig c).check e = (ofConfig c.withoutEmpty).check e ↔
      (c.aggregationGroup = some ∅ → c.GroupHolds e) ∧
      (c.aggregationLabelValue = some "" → c.GroupHolds e → c.LabelValueHolds e)) ∧
    ((ofConfig c).check e ≠ (ofConfig c.withoutEmpty).check e →
      ∃ v, (ofConfig c).check e = .error v ∧ v.OfEmptyEntry) ∧
    ∀ v, (ofConfig c.withoutEmpty).check e = .error v → ¬ v.OfEmptyEntry := by
  simp only [check_ofConfig, verdict_inj, verdict_eq_error, Ne]
  refine ⟨⟨fun h => ?_, fun h => (Config.violation?_withoutEmpty_of_hold h).symm⟩, fun h => ?_,
    fun v => Config.not_ofEmptyEntry_of_withoutEmpty⟩
  · by_contra hnot
    obtain ⟨v, hv, hempty⟩ := Config.violation?_of_not_hold hnot
    exact Config.not_ofEmptyEntry_of_withoutEmpty (h ▸ hv) hempty
  · exact Config.violation?_of_not_hold fun hold =>
      h (Config.violation?_withoutEmpty_of_hold hold).symm

/-- `sum(up)` has no labels and no matchers, so both empty entries accept it. -/
theorem check_withoutEmpty_iff_sum_up :
    let c : Config := { aggregationGroup := some ∅, aggregationLabelValue := some "" }
    let e : Expr := .aggregate "sum" none none (.vector ⟨some "up", [], []⟩)
    (ofConfig c).check e = (ofConfig c.withoutEmpty).check e ∧ c.GroupHolds e := by
  intro c e
  have hsame : (ofConfig c).check e = (ofConfig c.withoutEmpty).check e := by cbv
  exact ⟨hsame, ((check_withoutEmpty_iff c e).1.1 hsame).1 rfl⟩

/-- An empty group rejects `sum by (job) (up)`, and an empty label value rejects
`sum(up{job=""})`. Left out, they reject neither. -/
theorem check_withoutEmpty_differs :
    let group : Config := { aggregationGroup := some ∅ }
    let value : Config := { aggregationLabelValue := some "" }
    let byJob : Expr :=
      .aggregate "sum" (some (.byLabels ["job"])) none (.vector ⟨some "up", [], []⟩)
    let noJob : Expr := .aggregate "sum" none none (.vector ⟨some "up", [⟨"job", .equal, ""⟩], []⟩)
    (ofConfig group).check byJob = .error (.grouping "sum" (.ofList ["job"]) ∅) ∧
      (ofConfig group.withoutEmpty).check byJob = .ok () ∧
      (ofConfig value).check noJob = .error (.labelValue "sum" ∅ ⟨"job", .equal, ""⟩ "") ∧
      (ofConfig value.withoutEmpty).check noJob = .ok () := by
  refine ⟨?_, ?_, ?_, ?_⟩ <;> cbv

end PolicySet

end QueryPolicy

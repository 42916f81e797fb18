import QueryPolicy.Proofs.Expr.Context
import QueryPolicy.Proofs.Expr.Search
import QueryPolicy.Proofs.Expr.Written
import QueryPolicy.Proofs.Policy.Grouping
import QueryPolicy.Proofs.Policy.LabelValue
import QueryPolicy.Proofs.Text.PlainName

/-!
# Messages determine violations

When all names are plain, the message of a violation can be read back. A report on grouping is read
from its start. A report on a label value is read from both ends, because the value stands in it as
it is and may look like anything; what is left in the middle is the value, once as it is and once
quoted, and the length of that tells where the value ends.
-/

namespace QueryPolicy

namespace Violation

open Text (IsPlainName front_inj back_inj)

/-! ## The texts of the messages -/

-- One equation for each cause: to unfold `message` for an open one is far slower.
theorem message_grouping (op : String) (labels expected : NameSet) :
    (grouping op labels expected).message =
      "aggregation '" ++ op ++ "' groups by " ++ labels.render ++ ", expected " ++
        expected.render ++ " (missing " ++ (expected \ labels).render ++ ", unexpected " ++
        (labels \ expected).render ++ ")" := rfl

theorem message_labelValue (op : String) (labels : NameSet) (m : LabelMatcher) (value : String) :
    (labelValue op labels m value).message =
      "label '" ++ m.name ++ "' selecting value '" ++ value ++ "' (" ++ m.render ++
        ") is not in the grouping " ++ labels.render ++ " of aggregation '" ++ op ++ "'" := rfl

theorem message_aggregator (op : String) :
    (aggregator op).message = "using blacklisted aggregator '" ++ op ++ "'" := rfl

theorem message_function (name : String) :
    (function name).message = "using blacklisted function '" ++ name ++ "'" := rfl

/-! ## Rules -/

/-- How the messages about a rule begin. -/
def opening : Violation → String
  | grouping .. => "aggregation '"
  | labelValue .. => "label '"
  | aggregator _ => "using blacklisted aggregator '"
  | function _ => "using blacklisted function '"

theorem opening_prefix_message (v : Violation) : v.opening.toList <+: v.message.toList := by
  cases v <;>
    simp only [opening, message_grouping, message_labelValue, message_aggregator, message_function,
      String.toList_append, List.append_assoc, List.prefix_append]

theorem rule_eq_of_opening_begins {v v' : Violation} (h : v.opening.toList <+: v'.opening.toList) :
    v.rule = v'.rule := by
  cases v <;> cases v' <;> simp_all [opening, rule]

/-- No opening begins another, so the message tells the rule. -/
theorem rule_eq_of_message_eq {v v' : Violation} (h : v.message = v'.message) :
    v.rule = v'.rule := by
  have hv : v.opening.toList <+: v'.message.toList := h ▸ opening_prefix_message v
  rcases List.prefix_or_prefix_of_prefix hv (opening_prefix_message v') with hle | hle
  · exact rule_eq_of_opening_begins hle
  · exact (rule_eq_of_opening_begins hle).symm

/-! ## Grouping -/

theorem toList_message_grouping (op : String) (labels expected : NameSet) :
    ∃ rest, (grouping op labels expected).message.toList =
      "aggregation '".toList ++ (op.toList ++ '\x27' :: (" groups by ".toList ++
        (labels.render.toList ++ (", expected ".toList ++ (expected.render.toList ++ rest))))) := by
  have hquote : "' groups by ".toList = '\x27' :: " groups by ".toList := rfl
  simp only [message_grouping, String.toList_append, List.append_assoc, hquote, List.cons_append]
  exact ⟨_, rfl⟩

/-- A report on grouping is read from its start. -/
theorem grouping_message_inj {op op' : String} {labels labels' expected expected' : NameSet}
    (hop : IsPlainName op) (hop' : IsPlainName op') (hlabels : labels.Plain)
    (hlabels' : labels'.Plain) (hexpected : expected.Plain) (hexpected' : expected'.Plain)
    (h : (grouping op labels expected).message = (grouping op' labels' expected').message) :
    op = op' ∧ labels = labels' ∧ expected = expected' := by
  have hchars := congrArg String.toList h
  obtain ⟨rest, hrest⟩ := toList_message_grouping op labels expected
  obtain ⟨rest', hrest'⟩ := toList_message_grouping op' labels' expected'
  rw [hrest, hrest'] at hchars
  have hfromOp := List.append_cancel_left hchars
  obtain ⟨ho, hafterOp⟩ := front_inj (hop.not_mem rfl) (hop'.not_mem rfl) hfromOp
  have hfromLabels := List.append_cancel_left hafterOp
  obtain ⟨hl, hafterLabels⟩ := NameSet.render_append_inj hlabels hlabels' hfromLabels
  have hfromExpected := List.append_cancel_left hafterLabels
  obtain ⟨he, -⟩ := NameSet.render_append_inj hexpected hexpected' hfromExpected
  exact ⟨String.toList_inj.1 ho, hl, he⟩

/-! ## Label values -/

/-- The middle of a report on a label value: the value as it is, and the matcher with the value
quoted. -/
def selection (m : LabelMatcher) : List Char :=
  m.value.toList ++ ("' (".toList ++ m.render.toList)

theorem toList_message_labelValue (op : String) (labels : NameSet) (m : LabelMatcher) :
    (labelValue op labels m m.value).message.toList =
      "label '".toList ++ (m.name.toList ++ '\x27' :: (" selecting value '".toList ++
        ((selection m ++ ") is not in the grouping ".toList ++ labels.render.toList ++
          " of aggregation ".toList ++ '\x27' :: op.toList) ++ ['\x27']))) := by
  have hopen : "' selecting value '".toList = '\x27' :: " selecting value '".toList := rfl
  have hclose : " of aggregation '".toList = " of aggregation ".toList ++ ['\x27'] := rfl
  have hend : "'".toList = ['\x27'] := rfl
  simp only [message_labelValue, selection, String.toList_append, List.append_assoc, hopen, hclose,
    hend, List.cons_append, List.nil_append]

/-- A longer value would make the middle longer by at least two characters for each of its own, and
operators differ by one at most. -/
theorem eq_nil_of_selection_eq {m m' : LabelMatcher} {more : List Char} (hname : m.name = m'.name)
    (hvalue : m'.value.toList = m.value.toList ++ more) (h : selection m = selection m') :
    more = [] := by
  have hlength := congrArg List.length h
  have hmore := Text.length_le_length_escapeChars Text.isObscure more
  have hop := m.op.length_render
  have hop' := m'.op.length_render
  simp only [selection, LabelMatcher.render, LabelMatcher.toList_renderBy, hname, hvalue,
    Text.escapeChars, List.flatMap_append, List.length_append, List.length_cons] at hlength hmore
  exact List.length_eq_zero_iff.1 (by omega)

/-- Under one name the middle of a report determines the matcher. -/
theorem selection_inj {m m' : LabelMatcher} (hname : m.name = m'.name)
    (h : selection m = selection m') : m = m' := by
  have hvalue : m.value.toList = m'.value.toList := by
    rcases List.append_eq_append_iff.1 h with ⟨more, hmore, -⟩ | ⟨more, hmore, -⟩
    · rw [hmore, eq_nil_of_selection_eq hname hmore h, List.append_nil]
    · rw [hmore, eq_nil_of_selection_eq hname.symm hmore h.symm, List.append_nil]
  rw [selection, selection, hvalue, LabelMatcher.render, LabelMatcher.render,
    LabelMatcher.toList_renderBy, LabelMatcher.toList_renderBy, hname] at h
  have hafterName := List.append_cancel_left (List.append_cancel_left (List.append_cancel_left h))
  obtain ⟨hop, -⟩ := MatchOp.render_inj hafterName
  cases m
  cases m'
  cases hname
  cases hop
  cases String.toList_inj.1 hvalue
  rfl

/-- A report on a label value is read from both ends. -/
theorem labelValue_message_inj {op op' : String} {labels labels' : NameSet} {m m' : LabelMatcher}
    (hop : IsPlainName op) (hop' : IsPlainName op') (hlabels : labels.Plain)
    (hlabels' : labels'.Plain) (hname : IsPlainName m.name) (hname' : IsPlainName m'.name)
    (h : (labelValue op labels m m.value).message =
      (labelValue op' labels' m' m'.value).message) : op = op' ∧ labels = labels' ∧ m = m' := by
  -- The name ends at the first mark, the operator stands between the last two, and the labels begin
  -- at the last opening brace: none of these places can be inside the value.
  have hchars := congrArg String.toList h
  rw [toList_message_labelValue, toList_message_labelValue] at hchars
  have hfromName := List.append_cancel_left hchars
  obtain ⟨hn, hafterName⟩ := front_inj (hname.not_mem rfl) (hname'.not_mem rfl) hfromName
  have hupToOp := List.append_cancel_right (List.append_cancel_left hafterName)
  obtain ⟨hbeforeOp, ho⟩ := back_inj (hop.not_mem rfl) (hop'.not_mem rfl) hupToOp
  have hupToLabels := List.append_cancel_right hbeforeOp
  obtain ⟨hbeforeLabels, hl⟩ := NameSet.append_render_inj hlabels hlabels' hupToLabels
  have hselection := List.append_cancel_right hbeforeLabels
  exact ⟨String.toList_inj.1 ho, hl, selection_inj (String.toList_inj.1 hn) hselection⟩

end Violation

/-! ## Trees with plain names -/

namespace Expr

/-- The names at a node: operator and labels of an aggregation, the function of a call, the labels
that a selector matches. -/
def ownNames : Expr → List String
  | aggregate op g _ _ => op :: Grouping.listed g
  | call name _ => [name]
  | vector s | matrix s _ => s.allMatchers.map (·.name)
  | binary .. | unary _ | paren _ | subquery .. | number _ | string _ => []

/-- All names in a tree are plain. -/
def PlainNames (e : Expr) : Prop :=
  ∀ p n, e.at? p = some n → ∀ x ∈ n.ownNames, Text.IsPlainName x

variable {e t : Expr} {p : Position} {a : Aggregation}

theorem plainNames_iff : e.PlainNames ↔ ∀ n ∈ e.preorder, ∀ x ∈ n.ownNames, Text.IsPlainName x := by
  constructor
  · intro h n hn
    obtain ⟨p, hp⟩ := mem_preorder.1 hn
    exact h p n hp
  · intro h p n hn
    exact h n (mem_preorder.2 ⟨p, hn⟩)

instance (e : Expr) : Decidable e.PlainNames := decidable_of_iff _ plainNames_iff.symm

theorem PlainNames.of_at? (h : e.PlainNames) (ht : e.at? p = some t) : t.PlainNames := by
  intro q n hn
  refine h (p ++ q) n ?_
  rw [at?_append, ht, Option.bind_some, hn]

theorem PlainNames.op (h : a.toExpr.PlainNames) : Text.IsPlainName a.op :=
  h [] a.toExpr rfl a.op List.mem_cons_self

theorem PlainNames.labels (h : a.toExpr.PlainNames) : a.labels.Plain := fun x hx =>
  h [] a.toExpr rfl x (List.mem_cons_of_mem a.op (Grouping.mem_labelSet.1 hx))

theorem PlainNames.body (h : a.toExpr.PlainNames) : a.body.PlainNames := by
  have hbody : a.toExpr.at? [a.param.toList.length] = some a.body := by
    simp [at?, Aggregation.toExpr, children]
  exact h.of_at? hbody

theorem PlainNames.matcher {o : MatcherPlace} {m : LabelMatcher} (h : e.PlainNames)
    (hm : e.matcherAt? o = some m) : Text.IsPlainName m.name := by
  obtain ⟨n, s, ms, hn, hs, hms, hmem⟩ := matcherAt?_eq_some.1 hm
  have hown : m.name ∈ s.allMatchers.map (·.name) :=
    List.mem_map.2 ⟨m, Selector.mem_allMatchers.2 ⟨o.group, o.index, ms, hms, hmem⟩, rfl⟩
  refine h o.selector n hn m.name ?_
  cases n with
  | vector s' =>
      cases hs
      exact hown
  | matrix s' range =>
      cases hs
      exact hown
  | _ => cases hs

end Expr

/-! ## Reports -/

/-- The first matcher in the body of an aggregation that selects the value of a label that the
aggregation does not keep. -/
def Aggregation.FirstLost (a : Aggregation) (value : String) (m : LabelMatcher) : Prop :=
  ∃ o, a.body.matcherAt? o = some m ∧ m.Uncovered value (Grouping.listed a.grouping) ∧
    ∀ o' m', a.body.matcherAt? o' = some m' →
      m'.Uncovered value (Grouping.listed a.grouping) → o ≤ o'

theorem Aggregation.FirstLost.value_eq {a : Aggregation} {value : String} {m : LabelMatcher}
    (h : a.FirstLost value m) : m.value = value := by
  obtain ⟨-, -, huncovered, -⟩ := h
  exact huncovered.2.1

theorem Aggregation.FirstLost.plainName {a : Aggregation} {value : String} {m : LabelMatcher}
    (h : a.FirstLost value m) (ha : a.toExpr.PlainNames) : Text.IsPlainName m.name := by
  obtain ⟨o, hm, -⟩ := h
  exact ha.body.matcher hm

namespace Policy

/-- The aggregation that a policy reports: the first one where it forbids something. -/
def Reports (p : Policy) (e : Expr) (a : Aggregation) : Prop :=
  ∃ q, e.FirstAt p.ForbiddenAt q a.toExpr

variable {e : Expr} {v : Violation}

theorem reports_of_check_aggregationGroup {expected : NameSet}
    (h : (aggregationGroup expected).check e = .error v) :
    ∃ a, (aggregationGroup expected).Reports e a ∧ v = .grouping a.op a.labels expected := by
  obtain ⟨q, op, g, param, body, hfirst, rfl⟩ := exists_of_check_aggregationGroup h
  exact ⟨⟨op, g, param, body⟩, ⟨q, hfirst⟩, rfl⟩

theorem reports_of_check_aggregationLabelValue {value : String}
    (h : (aggregationLabelValue value).check e = .error v) :
    ∃ a m, (aggregationLabelValue value).Reports e a ∧ a.FirstLost value m ∧
      v = .labelValue a.op a.labels m value := by
  obtain ⟨q, op, g, param, body, hfirst, o, m, hm, huncovered, hleast, rfl⟩ :=
    exists_of_check_aggregationLabelValue h
  exact ⟨⟨op, g, param, body⟩, m, ⟨q, hfirst⟩, ⟨o, hm, huncovered, hleast⟩, rfl⟩

theorem Reports.plainNames {p : Policy} {a : Aggregation} (h : p.Reports e a) (he : e.PlainNames) :
    a.toExpr.PlainNames := by
  obtain ⟨q, hfirst⟩ := h
  exact he.of_at? hfirst.1

/-- Where all names are plain, two reports on grouping with one message are about the same operator
and the same labels and expect the same, and two reports on a label value with one message are about
the same matcher, value, operator and labels. Reports on two rules never have one message. -/
theorem message_determines_violation :
    (∀ (expected expected' : NameSet) (e e' : Expr) (v v' : Violation),
      expected.Plain → expected'.Plain → e.PlainNames → e'.PlainNames →
      (aggregationGroup expected).check e = .error v →
      (aggregationGroup expected').check e' = .error v' → v.message = v'.message →
      expected = expected' ∧ ∃ a a', (aggregationGroup expected).Reports e a ∧
        (aggregationGroup expected').Reports e' a' ∧ a.op = a'.op ∧ a.labels = a'.labels) ∧
    (∀ (value value' : String) (e e' : Expr) (v v' : Violation), e.PlainNames → e'.PlainNames →
      (aggregationLabelValue value).check e = .error v →
      (aggregationLabelValue value').check e' = .error v' → v.message = v'.message →
      value = value' ∧ ∃ a a' m m', (aggregationLabelValue value).Reports e a ∧
        (aggregationLabelValue value').Reports e' a' ∧ a.FirstLost value m ∧
        a'.FirstLost value' m' ∧ m.name = m'.name ∧ m.op = m'.op ∧ m.value = m'.value ∧
        a.op = a'.op ∧ a.labels = a'.labels) ∧
    ∀ v v' : Violation, v.rule ≠ v'.rule → v.message ≠ v'.message := by
  refine ⟨fun expected expected' e e' v v' hexpected hexpected' he he' hv hv' hmessage => ?_,
    fun value value' e e' v v' he he' hv hv' hmessage => ?_,
    fun v v' hrule hmessage => hrule (Violation.rule_eq_of_message_eq hmessage)⟩
  · obtain ⟨a, ha, rfl⟩ := reports_of_check_aggregationGroup hv
    obtain ⟨a', ha', rfl⟩ := reports_of_check_aggregationGroup hv'
    have hnames := ha.plainNames he
    have hnames' := ha'.plainNames he'
    obtain ⟨hop, hlabels, hsame⟩ := Violation.grouping_message_inj hnames.op hnames'.op
      hnames.labels hnames'.labels hexpected hexpected' hmessage
    exact ⟨hsame, a, a', ha, ha', hop, hlabels⟩
  · obtain ⟨a, m, ha, hm, rfl⟩ := reports_of_check_aggregationLabelValue hv
    obtain ⟨a', m', ha', hm', rfl⟩ := reports_of_check_aggregationLabelValue hv'
    have hnames := ha.plainNames he
    have hnames' := ha'.plainNames he'
    obtain rfl := hm.value_eq
    obtain rfl := hm'.value_eq
    obtain ⟨hop, hlabels, rfl⟩ := Violation.labelValue_message_inj hnames.op hnames'.op
      hnames.labels hnames'.labels (hm.plainName hnames) (hm'.plainName hnames') hmessage
    exact ⟨rfl, a, a', m, m, ha, ha', hm, hm', rfl, rfl, rfl, hop, hlabels⟩

/-- A value that goes on as a report does, in two trees that get one message from each policy. The
messages of the two policies differ. -/
theorem message_determines_violation_look_alike :
    let value := "a' (job=\x22a"
    let up : Expr := .vector ⟨some "up", [⟨"job", .equal, value⟩], []⟩
    let e : Expr := .aggregate "sum" (some (.byLabels ["pod"])) none up
    let e' : Expr :=
      .unary (.aggregate "sum" (some (.withoutLabels ["pod", "pod"])) none (.paren up))
    let expected : NameSet := .ofList ["env", "job"]
    let expected' : NameSet := .ofList ["job", "env", "job"]
    let v : Violation := .grouping "sum" (.ofList ["pod"]) expected
    let v' : Violation := .grouping "sum" (.ofList ["pod", "pod"]) expected'
    let w : Violation := .labelValue "sum" (.ofList ["pod"]) ⟨"job", .equal, value⟩ value
    let w' : Violation := .labelValue "sum" (.ofList ["pod", "pod"]) ⟨"job", .equal, value⟩ value
    (e ≠ e' ∧ e.PlainNames ∧ e'.PlainNames) ∧
    (expected.Plain ∧ expected'.Plain ∧ (aggregationGroup expected).check e = .error v ∧
      (aggregationGroup expected').check e' = .error v' ∧ v.message = v'.message ∧
      ∃ a a', (aggregationGroup expected).Reports e a ∧
        (aggregationGroup expected').Reports e' a' ∧ a.op = a'.op ∧ a.labels = a'.labels) ∧
    ((aggregationLabelValue value).check e = .error w ∧
      (aggregationLabelValue value).check e' = .error w' ∧ w.message = w'.message ∧
      ∃ (a a' : Aggregation) (m m' : LabelMatcher), a.FirstLost value m ∧ a'.FirstLost value m' ∧
        m.name = m'.name ∧ m.op = m'.op ∧ m.value = m'.value ∧ a.op = a'.op ∧
        a.labels = a'.labels) ∧
    v.rule ≠ w.rule ∧ v.message ≠ w.message := by
  intro value up e e' expected expected' v v' w w'
  have he : e.PlainNames := by decide +kernel
  have he' : e'.PlainNames := by decide +kernel
  have hexpected : expected.Plain := by decide +kernel
  have hexpected' : expected'.Plain := by decide +kernel
  have hv : (aggregationGroup expected).check e = .error v := by
    rw [check, violation?_eq]
    rfl
  have hv' : (aggregationGroup expected').check e' = .error v' := by
    rw [check, violation?_eq]
    rfl
  have hw : (aggregationLabelValue value).check e = .error w := by cbv
  have hw' : (aggregationLabelValue value).check e' = .error w' := by cbv
  have hmessage : v.message = v'.message := rfl
  have hmessage' : w.message = w'.message := rfl
  have hrules : v.rule ≠ w.rule := by decide
  obtain ⟨hgroup, hvalue, hrule⟩ := message_determines_violation
  obtain ⟨-, hreports⟩ := hgroup _ _ e e' v v' hexpected hexpected' he he' hv hv' hmessage
  obtain ⟨-, a, a', m, m', -, -, hm, hm', hsame⟩ :=
    hvalue value value e e' w w' he he' hw hw' hmessage'
  exact ⟨⟨by simp [e, e'], he, he'⟩, ⟨hexpected, hexpected', hv, hv', hmessage, hreports⟩,
    ⟨hw, hw', hmessage', a, a', m, m', hm, hm', hsame⟩, hrules, hrule v w hrules⟩

end Policy

end QueryPolicy

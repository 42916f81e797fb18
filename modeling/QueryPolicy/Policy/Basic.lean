import QueryPolicy.Expr.Search
import QueryPolicy.Policy.Violation

/-!
# Policies

The four rules that a query can be held to. A check reports the first violation in pre-order.
-/

namespace QueryPolicy

/-- A rule for queries, with its parameter. -/
inductive Policy
  /-- Every aggregation groups by exactly the expected labels. -/
  | aggregationGroup (expected : NameSet)
  /-- A label whose matcher selects the value is kept by every aggregation around the matcher. -/
  | aggregationLabelValue (value : String)
  /-- No aggregation uses an operator of the blacklist. -/
  | aggregationFunction (blacklist : NameSet)
  /-- No call uses a function of the blacklist. -/
  | function (blacklist : NameSet)
  deriving DecidableEq

namespace Policy

/-- The name of a policy. -/
def name : Policy → String
  | aggregationGroup _ => "aggregation_group"
  | aggregationLabelValue _ => "aggregation_label_value"
  | aggregationFunction _ => "aggregation_function"
  | function _ => "function"

/-- The violation of one aggregation whose labels are not the expected ones. -/
def groupViolation? (expected : NameSet) (a : Aggregation) : Option Violation :=
  if a.labels = expected then none else some (.grouping a.op a.labels expected)

/-- The violation of one aggregation by the first matcher in its body that selects the value of a
label it does not keep. -/
def labelValueViolation? (value : String) (a : Aggregation) : Option Violation :=
  (a.body.matchers.find? fun (m, _) => m.selectsValue value && m.name ∉ a.labels).map
    fun (m, _) => .labelValue a.op a.labels m value

/-- The violation of one aggregation whose operator is blacklisted. -/
def aggregatorViolation? (blacklist : NameSet) (a : Aggregation) : Option Violation :=
  if a.op ∈ blacklist then some (.aggregator a.op) else none

/-- The violation of one call whose function is blacklisted. -/
def functionViolation? (blacklist : NameSet) (c : Call) : Option Violation :=
  if c.name ∈ blacklist then some (.function c.name) else none

/-- The first violation in pre-order. -/
def violation? : Policy → Expr → Option Violation
  | aggregationGroup expected, e => e.aggregations.findSome? (groupViolation? expected)
  | aggregationLabelValue value, e => e.aggregations.findSome? (labelValueViolation? value)
  | aggregationFunction blacklist, e => e.aggregations.findSome? (aggregatorViolation? blacklist)
  | function blacklist, e => e.calls.findSome? (functionViolation? blacklist)

/-- Accepts an expression, or rejects it with its first violation. -/
def check (p : Policy) (e : Expr) : Except Violation Unit :=
  match p.violation? e with
  | none => .ok ()
  | some v => .error v

end Policy

end QueryPolicy

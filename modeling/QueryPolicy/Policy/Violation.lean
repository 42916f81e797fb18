import QueryPolicy.Expr.Basic

/-!
# Violations

Why a policy rejects an expression. Each cause has the name of its rule and a message.
-/

namespace QueryPolicy

/-- Why an expression is rejected. -/
inductive Violation
  /-- An aggregation groups by other labels than expected. -/
  | grouping (op : String) (labels expected : NameSet)
  /-- A matcher selects a guarded value, and the aggregation around it does not keep its label. -/
  | labelValue (op : String) (labels : NameSet) (matcher : LabelMatcher) (value : String)
  /-- An aggregation operator is blacklisted. -/
  | aggregator (op : String)
  /-- A function is blacklisted. -/
  | function (name : String)
  deriving DecidableEq

namespace Violation

/-- The name of the policy that is violated. -/
def rule : Violation → String
  | grouping .. => "aggregation_group"
  | labelValue .. => "aggregation_label_value"
  | aggregator _ => "aggregation_function"
  | function _ => "function"

/-- The message to the author of the query. -/
def message : Violation → String
  | grouping op labels expected =>
    "aggregation '" ++ op ++ "' groups by " ++ labels.render ++ ", expected " ++ expected.render ++
      " (missing " ++ (expected \ labels).render ++
      ", unexpected " ++ (labels \ expected).render ++ ")"
  | labelValue op labels matcher value =>
    "label '" ++ matcher.name ++ "' selecting value '" ++ value ++ "' (" ++ matcher.render ++
      ") is not in the grouping " ++ labels.render ++ " of aggregation '" ++ op ++ "'"
  | aggregator op => "using blacklisted aggregator '" ++ op ++ "'"
  | function name => "using blacklisted function '" ++ name ++ "'"

end Violation

end QueryPolicy

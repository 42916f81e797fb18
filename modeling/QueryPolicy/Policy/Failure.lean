import QueryPolicy.Policy.Violation
import QueryPolicy.Query.Error

/-!
# Failures

Why the text of a query is turned down: it is no query, or it is one that violates a policy.
-/

namespace QueryPolicy

/-- Why a text is turned down. -/
inductive Failure
  /-- The text is no query. -/
  | malformed (message : String)
  /-- The query violates the policy named by `rule`. -/
  | rejected (rule message : String)
  deriving DecidableEq

namespace Failure

/-- The failure of a text that is no query. -/
def ofError (e : Query.Error) : Failure := malformed e.message

/-- The failure of a query that violates a policy. -/
def ofViolation (v : Violation) : Failure := rejected v.rule v.message

/-- The message of a failure by itself. -/
def message : Failure → String
  | malformed m => m
  | rejected _ m => m

/-- The message for display, which tells a text that is no query from a violation. -/
def display : Failure → String
  | malformed m => "PromQL syntax error: " ++ m
  | rejected _ m => m

/-- Whether the text is no query. -/
def isMalformed : Failure → Bool
  | malformed _ => true
  | rejected .. => false

/-- Whether the query violates a policy. -/
def isRejected : Failure → Bool
  | malformed _ => false
  | rejected .. => true

end Failure

end QueryPolicy

import QueryPolicy.Config.Basic
import QueryPolicy.Policy.Basic

/-!
# Policy sets

A validator is one policy or a set of validators. A set asks its members in order and reports the
first violation.
-/

namespace QueryPolicy

/-- A policy, or a set of validators, nested to any depth. -/
inductive Validator
  | policy (p : Policy)
  | set (members : List Validator)

namespace Validator

/-- The name of a validator. -/
def name : Validator → String
  | policy p => p.name
  | set _ => "policy_set"

mutual

/-- Accepts an expression, or rejects it with the violation of the first member that does. -/
def check : Validator → Expr → Except Violation Unit
  | policy p, e => p.check e
  | set members, e => checkAll members e

/-- Checks the validators of a list in order, up to the first that rejects. -/
def checkAll : List Validator → Expr → Except Violation Unit
  | [], _ => .ok ()
  | v :: vs, e =>
    match check v e with
    | .ok () => checkAll vs e
    | .error violation => .error violation

end

mutual

/-- The policies of a validator, from left to right. -/
def leaves : Validator → List Policy
  | policy p => [p]
  | set members => leavesAll members

/-- The policies of the validators of a list. -/
def leavesAll : List Validator → List Policy
  | [] => []
  | v :: vs => leaves v ++ leavesAll vs

end

end Validator

/-- A list of validators that are enforced together. -/
structure PolicySet where
  members : List Validator

namespace PolicySet

/-- The set that accepts everything. -/
def empty : PolicySet := ⟨[]⟩

instance : EmptyCollection PolicySet := ⟨empty⟩

/-- A set as a validator, for instance as a member of another set. -/
def toValidator (s : PolicySet) : Validator := .set s.members

/-- Adds a member at the end. -/
def push (s : PolicySet) (v : Validator) : PolicySet := ⟨s.members ++ [v]⟩

/-- How many direct members there are. -/
def size (s : PolicySet) : Nat := s.members.length

/-- Whether there is no member. -/
def isEmpty (s : PolicySet) : Bool := s.members.isEmpty

/-- The names of the direct members. -/
def names (s : PolicySet) : List String := s.members.map Validator.name

/-- The quoted names of the direct members between brackets. -/
def render (s : PolicySet) : String :=
  "[" ++ Text.commaSeparated (s.names.map Text.quote) ++ "]"

/-- Checks the members in order. -/
def check (s : PolicySet) (e : Expr) : Except Violation Unit := s.toValidator.check e

/-- The configured policies in fixed order: grouping and label value if they are present, the two
blacklists if they are not empty. -/
def policiesOfConfig (c : Config) : List Policy :=
  (c.aggregationGroup.map .aggregationGroup).toList ++
    (c.aggregationLabelValue.map .aggregationLabelValue).toList ++
    (if c.blacklistedAggregators.isEmpty then []
      else [.aggregationFunction c.blacklistedAggregators]) ++
    (if c.blacklistedFunctions.isEmpty then [] else [.function c.blacklistedFunctions])

/-- The set of the configured policies. -/
def ofConfig (c : Config) : PolicySet := ⟨(policiesOfConfig c).map .policy⟩

/-- The record written when a set is built from a configuration. -/
def builtRecord (s : PolicySet) : LogRecord := ⟨.debug, "Built policy set " ++ s.render⟩

end PolicySet

end QueryPolicy

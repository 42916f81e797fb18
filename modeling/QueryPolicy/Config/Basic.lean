import QueryPolicy.Log
import QueryPolicy.NameSet

/-!
# Configuration

Which policies are enforced, with their parameters.
-/

namespace QueryPolicy

/-- The policies to enforce; each is optional. -/
structure Config where
  /-- The labels by which every aggregation must group. -/
  aggregationGroup : Option NameSet := none
  /-- A label value whose label the enclosing aggregations must keep. -/
  aggregationLabelValue : Option String := none
  /-- Aggregation operators that may not be used. -/
  blacklistedAggregators : NameSet := ∅
  /-- Functions that may not be called. -/
  blacklistedFunctions : NameSet := ∅
  deriving DecidableEq, Inhabited

namespace Config

/-- Whether no policy is configured. A present optional entry counts, even an empty one. -/
def isEmpty (c : Config) : Bool :=
  c.aggregationGroup.isNone && c.aggregationLabelValue.isNone &&
    c.blacklistedAggregators.isEmpty && c.blacklistedFunctions.isEmpty

/-- An optional part of the diagnostic text. -/
def renderOption (o : Option String) : String :=
  match o with
  | none => "None"
  | some s => "Some(" ++ s ++ ")"

/-- The diagnostic text: the four entries by name. -/
def render (c : Config) : String :=
  "PolicyConfig \x7b aggregation_group: " ++
    renderOption (c.aggregationGroup.map NameSet.renderQuoted) ++
    ", aggregation_label_value: " ++ renderOption (c.aggregationLabelValue.map Text.quote) ++
    ", blacklisted_aggregators: " ++ c.blacklistedAggregators.renderQuoted ++
    ", blacklisted_functions: " ++ c.blacklistedFunctions.renderQuoted ++ " \x7d"

end Config

end QueryPolicy

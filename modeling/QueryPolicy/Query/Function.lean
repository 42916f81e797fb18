import QueryPolicy.Query.Operator

/-!
# Functions of the query language
-/

namespace QueryPolicy.Query

/-- The parameters and the result of a function. Of a variadic function the last parameter is
optional. -/
structure Signature where
  name : String
  params : List ValueType
  variadic : Bool
  returns : ValueType
  deriving DecidableEq

namespace Signature

/-- Functions of one instant vector. -/
def ofVector : List String :=
  ["abs", "absent", "acos", "acosh", "asin", "asinh", "atan", "atanh", "ceil", "cos", "cosh",
    "deg", "exp", "floor", "histogram_count", "histogram_sum", "ln", "log10", "log2", "rad",
    "sgn", "sin", "sinh", "sort", "sort_desc", "sqrt", "tan", "tanh", "timestamp"]

/-- Functions of an instant vector that may be left out. -/
def ofOptionalVector : List String :=
  ["days_in_month", "day_of_month", "day_of_week", "day_of_year", "hour", "minute", "month",
    "year"]

/-- Functions of one range vector. -/
def ofMatrix : List String :=
  ["absent_over_time", "avg_over_time", "changes", "count_over_time", "delta", "deriv", "idelta",
    "increase", "irate", "last_over_time", "max_over_time", "min_over_time", "present_over_time",
    "rate", "resets", "stddev_over_time", "stdvar_over_time", "sum_over_time"]

/-- All functions. -/
def all : List Signature :=
  ofVector.map (⟨·, [.vector], false, .vector⟩) ++
    ofOptionalVector.map (⟨·, [.vector], true, .vector⟩) ++
    ofMatrix.map (⟨·, [.matrix], false, .vector⟩) ++
    [⟨"scalar", [.vector], false, .scalar⟩,
      ⟨"pi", [], false, .scalar⟩,
      ⟨"time", [], false, .scalar⟩,
      ⟨"vector", [.scalar], false, .vector⟩,
      ⟨"round", [.vector, .scalar], true, .vector⟩,
      ⟨"clamp_max", [.vector, .scalar], false, .vector⟩,
      ⟨"clamp_min", [.vector, .scalar], false, .vector⟩,
      ⟨"clamp", [.vector, .scalar, .scalar], false, .vector⟩,
      ⟨"histogram_quantile", [.scalar, .vector], false, .vector⟩,
      ⟨"histogram_fraction", [.scalar, .scalar, .vector], false, .vector⟩,
      ⟨"holt_winters", [.matrix, .scalar, .scalar], false, .vector⟩,
      ⟨"predict_linear", [.matrix, .scalar], false, .vector⟩,
      ⟨"quantile_over_time", [.scalar, .matrix], false, .vector⟩,
      ⟨"label_replace", [.vector, .string, .string, .string, .string], false, .vector⟩,
      ⟨"label_join", [.vector, .string, .string, .string], true, .vector⟩,
      ⟨"sort_by_label", [.vector, .string, .string], true, .vector⟩,
      ⟨"sort_by_label_desc", [.vector, .string, .string], true, .vector⟩]

/-- The function of a name; case matters. -/
def find? (name : String) : Option Signature := all.find? (·.name == name)

/-- Whether a variadic function takes any number of further arguments. -/
def isUnbounded (s : Signature) : Bool :=
  ["label_join", "sort_by_label", "sort_by_label_desc"].contains s.name

/-- The type of an argument; arguments beyond the parameters have the type of the last one. -/
def paramType? (s : Signature) (index : Nat) : Option ValueType :=
  s.params[index]?.or s.params.getLast?

end Signature

end QueryPolicy.Query

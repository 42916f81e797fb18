/-!
# Operators of the query language

Aggregation operators, binary operators with their precedence, and the types of values.
-/

namespace QueryPolicy.Query

/-- The type of the value that an expression computes. -/
inductive ValueType
  | vector | scalar | matrix | string
  deriving DecidableEq

/-- The name of a type in messages. -/
def ValueType.name : ValueType → String
  | .vector => "vector"
  | .scalar => "scalar"
  | .matrix => "matrix"
  | .string => "string"

/-- The operators that aggregate over labels. -/
inductive Aggregator
  | sum | avg | count | min | max | group | stddev | stdvar
  | topk | bottomk | countValues | quantile
  deriving DecidableEq

namespace Aggregator

/-- The keyword of an aggregation operator. -/
def name : Aggregator → String
  | sum => "sum"
  | avg => "avg"
  | count => "count"
  | min => "min"
  | max => "max"
  | group => "group"
  | stddev => "stddev"
  | stdvar => "stdvar"
  | topk => "topk"
  | bottomk => "bottomk"
  | countValues => "count_values"
  | quantile => "quantile"

/-- All aggregation operators. -/
def all : List Aggregator :=
  [sum, avg, count, min, max, group, stddev, stdvar, topk, bottomk, countValues, quantile]

/-- The type of the parameter, for operators that take one before the aggregated vector. -/
def paramType? : Aggregator → Option ValueType
  | topk | bottomk | quantile => some .scalar
  | countValues => some .string
  | _ => none

end Aggregator

/-- The operators between two expressions. -/
inductive BinaryOp
  | add | sub | mul | div | mod | pow | atan2
  | eq | ne | gt | ge | lt | le
  | setAnd | setOr | setUnless
  deriving DecidableEq

namespace BinaryOp

/-- The written form of a binary operator. -/
def render : BinaryOp → String
  | add => "+"
  | sub => "-"
  | mul => "*"
  | div => "/"
  | mod => "%"
  | pow => "^"
  | atan2 => "atan2"
  | eq => "=="
  | ne => "!="
  | gt => ">"
  | ge => ">="
  | lt => "<"
  | le => "<="
  | setAnd => "and"
  | setOr => "or"
  | setUnless => "unless"

/-- How tightly an operator binds. -/
def precedence : BinaryOp → Nat
  | setOr => 1
  | setAnd | setUnless => 2
  | eq | ne | gt | ge | lt | le => 3
  | add | sub => 4
  | mul | div | mod | atan2 => 5
  | pow => 6

/-- The least precedence that the right operand may show without parentheses: powers associate to
the right, all else to the left. -/
def rightPrecedence (op : BinaryOp) : Nat :=
  if op = pow then op.precedence else op.precedence + 1

/-- Whether the operator compares two values. -/
def isComparison : BinaryOp → Bool
  | eq | ne | gt | ge | lt | le => true
  | _ => false

/-- Whether the operator combines two sets of series. -/
def isSetOperator : BinaryOp → Bool
  | setAnd | setOr | setUnless => true
  | _ => false

end BinaryOp

/-- The least precedence of the operand of a sign: a sign binds as a multiplication does, so its
operand takes powers only. -/
def signOperandPrecedence : Nat := BinaryOp.mul.rightPrecedence

end QueryPolicy.Query

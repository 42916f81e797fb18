import QueryPolicy.Query.Error
import QueryPolicy.Query.Tree

/-!
# Well-typed query trees

The conditions on a node whose children are well-typed, in the order in which they are reported.
-/

namespace QueryPolicy.Query

/-- Refuses with an error if a condition holds. -/
def refuseIf (condition : Bool) (e : Error) : Except Error Unit :=
  if condition then .error e else .ok ()

namespace Tree

/-- The labels that occur both in the matching labels and in the group labels of `on`. -/
def sharedLabels (m : VectorMatching) : List String :=
  match m.keeps, m.group with
  | true, some (_, labels) => m.labels.filter (· ∈ labels)
  | _, _ => []

/-- No label occurs both in `on` and in the group clause. -/
def checkSharedLabels (modifiers : BinaryModifiers) : Except Error Unit :=
  match modifiers.matching.toList.flatMap sharedLabels with
  | label :: _ => .error (.labelInOnAndGroup label)
  | [] => .ok ()

/-- The conditions on a binary operation with operands of two types. -/
def checkBinary (op : BinaryOp) (lhs rhs : ValueType) (modifiers : BinaryModifiers) :
    Except Error Unit := do
  let bothScalars : Bool := lhs = .scalar && rhs = .scalar
  let bothVectors : Bool := lhs = .vector && rhs = .vector
  let oneScalar : Bool := lhs = .scalar || rhs = .scalar
  let plain (t : ValueType) : Bool := t = .scalar || t = .vector
  let matching := modifiers.matching
  refuseIf (modifiers.returnBool && !op.isComparison) .boolWithoutComparison
  refuseIf (op.isComparison && bothScalars && !modifiers.returnBool) .scalarComparison
  checkSharedLabels modifiers
  refuseIf (op.isSetOperator && oneScalar) (.setOperatorOnScalar op)
  refuseIf (op.isSetOperator && bothVectors && matching.any (·.group.isSome))
    (.groupOnSetOperator op)
  refuseIf (!plain lhs || !plain rhs) .binaryOperandType
  refuseIf (!bothVectors && matching.any (!·.labels.isEmpty)) .matchingOnScalar

/-- The conditions on an aggregation. -/
def checkAggregate (op : Aggregator) (param : Option Tree) (body : Tree) : Except Error Unit := do
  refuseIf (body.valueType ≠ .vector) (.aggregateType .vector body.valueType)
  match op.paramType?, param with
  | some expected, some p =>
    refuseIf (p.valueType ≠ expected) (.aggregateType expected p.valueType)
  | _, _ => .ok ()

/-- The number of arguments suits a signature. -/
def checkArgumentCount (s : Signature) (actual : Nat) : Except Error Unit := do
  let count := s.params.length
  if s.variadic then
    refuseIf (actual < count - 1) (.tooFewArguments (count - 1) s.name actual)
    refuseIf (count < actual && !s.isUnbounded) (.tooManyArguments count s.name actual)
  else refuseIf (actual ≠ count) (.argumentCount count s.name actual)

/-- A call of an exponential or logarithm on a number literal at which it has no finite value is
let pass without a check of types. -/
def isDegenerate (s : Signature) (args : List Tree) : Bool :=
  match args with
  | number x :: _ =>
    if s.name = "exp" then !x.isFinite
    else if s.name = "ln" || s.name = "log2" || s.name = "log10" then
      !x.isFinite || x.isNonPositive
    else false
  | _ => false

/-- Each argument has the type of its parameter. -/
def checkArgumentTypes (s : Signature) : Nat → List Tree → Except Error Unit
  | _, [] => .ok ()
  | index, arg :: args =>
    match s.paramType? index with
    | none => .ok ()
    | some expected =>
      if arg.valueType = expected then checkArgumentTypes s (index + 1) args
      else .error (.argumentType expected s.name arg.valueType)

/-- The conditions on a call. -/
def checkCall (s : Signature) (args : List Tree) : Except Error Unit := do
  checkArgumentCount s args.length
  if isDegenerate s args then .ok () else checkArgumentTypes s 0 args

/-- The label that holds the metric name. -/
def metricNameLabel : String := "__name__"

/-- The conditions on a selector: its metric name is given once, or some matcher needs a label. -/
def checkSelector (s : TreeSelector) : Except Error Unit :=
  match s.name with
  | some name =>
    match s.allMatchers.find? (·.name == metricNameLabel) with
    | some m => .error (.nameSetTwice name m.value)
    | none => .ok ()
  | none => refuseIf (s.allMatchers.all (·.matchesEmpty)) .onlyEmptyMatchers

/-- The conditions on a node. -/
def check : Tree → Except Error Unit
  | aggregate op _ param body => checkAggregate op param body
  | binary op lhs rhs modifiers => checkBinary op lhs.valueType rhs.valueType modifiers
  | unary operand =>
    let type := operand.valueType
    refuseIf (type ≠ .scalar && type ≠ .vector) (.unaryOperandType type)
  | call s args => checkCall s args
  | vector s => checkSelector s
  | subquery inner _ _ _ _ =>
    refuseIf (inner.valueType ≠ .vector) (.subqueryOperandType inner.valueType)
  | paren _ | matrix .. | number _ | string _ | foreign .. => .ok ()

end Tree

end QueryPolicy.Query

import QueryPolicy.Duration
import QueryPolicy.NameSet

/-!
# Query expressions

The tree that policies inspect: aggregations, operators, calls, selectors and literals. Each node
owns its children, which `children` lists in source order.
-/

namespace QueryPolicy

/-! ## Label matchers -/

/-- How a label matcher compares the label's value. -/
inductive MatchOp
  | equal | notEqual | regexMatch | regexNotMatch
  deriving DecidableEq, Inhabited

/-- The written form of a match operator. -/
def MatchOp.render : MatchOp → String
  | .equal => "="
  | .notEqual => "!="
  | .regexMatch => "=~"
  | .regexNotMatch => "!~"

/-- A condition on one label. The value of a pattern operator is the pattern as written. -/
structure LabelMatcher where
  name : String
  op : MatchOp
  value : String
  deriving DecidableEq, Inhabited

namespace LabelMatcher

/-- Whether the matcher names a value positively: the operator is `=` or `=~` and the written value
is this one. Patterns are not expanded. -/
def selectsValue (m : LabelMatcher) (value : String) : Bool :=
  match m.op with
  | .equal | .regexMatch => m.value == value
  | .notEqual | .regexNotMatch => false

/-- Name, operator and quoted value, when the class `obscure` is spelled by code points. -/
def renderBy (obscure : Char → Bool) (m : LabelMatcher) : String :=
  m.name ++ m.op.render ++ Text.quoteBy obscure m.value

/-- Name, operator and quoted value. -/
def render (m : LabelMatcher) : String := m.renderBy Text.isObscure

end LabelMatcher

/-- What an instant or range selector selects: a metric name and label matchers, or alternatives of
matchers joined by `or`. -/
structure Selector where
  name : Option String
  matchers : List LabelMatcher
  orMatchers : List (List LabelMatcher)
  deriving DecidableEq, Inhabited

/-- All matchers, those of the alternatives last. -/
def Selector.allMatchers (s : Selector) : List LabelMatcher :=
  s.matchers ++ s.orMatchers.flatten

/-! ## Grouping clauses -/

/-- The clause that says which labels an aggregation keeps or drops. -/
inductive Grouping
  | byLabels (labels : List String)
  | withoutLabels (labels : List String)
  deriving DecidableEq, Inhabited

namespace Grouping

/-- The labels as written, in order and with repetitions. -/
def labels : Grouping → List String
  | byLabels labels => labels
  | withoutLabels labels => labels

/-- The clause as it is written. -/
def render : Grouping → String
  | byLabels labels => "by (" ++ Text.commaSeparated labels ++ ")"
  | withoutLabels labels => "without (" ++ Text.commaSeparated labels ++ ")"

/-- The labels as a set, `by` and `without` alike; no clause has no labels. -/
def labelSet (g : Option Grouping) : NameSet :=
  NameSet.ofList (g.toList.flatMap labels)

end Grouping

/-! ## Expressions -/

/-- A query expression. -/
inductive Expr
  | aggregate (op : String) (grouping : Option Grouping) (param : Option Expr) (body : Expr)
  | binary (op : String) (lhs rhs : Expr)
  | unary (operand : Expr)
  | paren (inner : Expr)
  | call (name : String) (args : List Expr)
  | vector (selector : Selector)
  | matrix (selector : Selector) (range : Duration)
  | subquery (inner : Expr) (range : Duration) (step : Option Duration)
  | number (value : Binary64)
  | string (value : String)
  deriving Inhabited

/-- The parts of an aggregation. -/
structure Aggregation where
  op : String
  grouping : Option Grouping
  param : Option Expr
  body : Expr
  deriving Inhabited

/-- The labels of an aggregation's clause as a set. -/
def Aggregation.labels (a : Aggregation) : NameSet := Grouping.labelSet a.grouping

/-- The parts of a function call. -/
structure Call where
  name : String
  args : List Expr
  deriving Inhabited

namespace Expr

/-- Direct children in source order; the parameter of an aggregation comes before its body. -/
def children : Expr → List Expr
  | aggregate _ _ param body => param.toList ++ [body]
  | binary _ lhs rhs => [lhs, rhs]
  | unary operand => [operand]
  | paren inner => [inner]
  | call _ args => args
  | subquery inner _ _ => [inner]
  | vector _ | matrix _ _ | number _ | string _ => []

/-- The selector of an instant or range selection. -/
def selector? : Expr → Option Selector
  | vector s => some s
  | matrix s _ => some s
  | _ => none

/-- The parts of an aggregation node. -/
def aggregation? : Expr → Option Aggregation
  | aggregate op grouping param body => some ⟨op, grouping, param, body⟩
  | _ => none

/-- The parts of a call node. -/
def call? : Expr → Option Call
  | call name args => some ⟨name, args⟩
  | _ => none

/-! ## Equality -/

mutual

/-- Equality of trees with numbers compared as values: all else is compared as written. -/
def valueEq : Expr → Expr → Bool
  | aggregate op g param body, aggregate op' g' param' body' =>
    op == op' && g == g' && valueEqParam param param' && valueEq body body'
  | binary op lhs rhs, binary op' lhs' rhs' => op == op' && valueEq lhs lhs' && valueEq rhs rhs'
  | unary e, unary e' => valueEq e e'
  | paren e, paren e' => valueEq e e'
  | call name args, call name' args' => name == name' && valueEqArgs args args'
  | vector s, vector s' => s == s'
  | matrix s range, matrix s' range' => s == s' && range == range'
  | subquery e range step, subquery e' range' step' =>
    valueEq e e' && range == range' && step == step'
  | number x, number y => x.valueEq y
  | string s, string s' => s == s'
  | _, _ => false

/-- Equality of optional parameters. -/
def valueEqParam : Option Expr → Option Expr → Bool
  | none, none => true
  | some e, some e' => valueEq e e'
  | _, _ => false

/-- Equality of argument lists, element by element. -/
def valueEqArgs : List Expr → List Expr → Bool
  | [], [] => true
  | e :: es, e' :: es' => valueEq e e' && valueEqArgs es es'
  | _, _ => false

end

end Expr

end QueryPolicy

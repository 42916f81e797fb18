import QueryPolicy.Query.Error
import QueryPolicy.Query.Tree

/-!
# Expressions of query trees

What policies look at. Offsets, fixed times, the modifiers of binary operations, compiled patterns
and signatures are dropped; foreign nodes have no expression.
-/

namespace QueryPolicy.Query

/-- The operator of a test. -/
def MatcherTest.op : MatcherTest → MatchOp
  | equal => .equal
  | notEqual => .notEqual
  | pattern _ => .regexMatch
  | notPattern _ => .regexNotMatch

/-- A matcher without its compiled pattern. -/
def TreeMatcher.toMatcher (m : TreeMatcher) : LabelMatcher := ⟨m.name, m.test.op, m.value⟩

/-- A selector without offset and fixed time. -/
def TreeSelector.toSelector (s : TreeSelector) : Selector where
  name := s.name
  matchers := s.matchers.map TreeMatcher.toMatcher
  orMatchers := s.orMatchers.map (·.map TreeMatcher.toMatcher)

namespace Tree

mutual

/-- The expression of a tree without foreign nodes. -/
def toExpr : Tree → Except Error Expr
  | aggregate op grouping param body => do
    let param ← toExprParam param
    let body ← toExpr body
    .ok (.aggregate op.name grouping param body)
  | binary op lhs rhs _ => do
    let lhs ← toExpr lhs
    let rhs ← toExpr rhs
    .ok (.binary op.render lhs rhs)
  | unary operand => do .ok (.unary (← toExpr operand))
  | paren inner => do .ok (.paren (← toExpr inner))
  | call s args => do .ok (.call s.name (← toExprArgs args))
  | vector s => .ok (.vector s.toSelector)
  | matrix s range => .ok (.matrix s.toSelector range)
  | subquery inner range step _ _ => do .ok (.subquery (← toExpr inner) range step)
  | number x => .ok (.number x)
  | string s => .ok (.string s)
  | foreign _ _ => .error .unsupportedExpression

/-- The expression of an optional parameter. -/
def toExprParam : Option Tree → Except Error (Option Expr)
  | none => .ok none
  | some t => do .ok (some (← toExpr t))

/-- The expressions of arguments. -/
def toExprArgs : List Tree → Except Error (List Expr)
  | [] => .ok []
  | t :: ts => do
    let e ← toExpr t
    let es ← toExprArgs ts
    .ok (e :: es)

end

end Tree

end QueryPolicy.Query

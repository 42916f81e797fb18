import QueryPolicy.Expr.Basic
import QueryPolicy.Query.Function
import QueryPolicy.Query.Pattern.OfValue
import QueryPolicy.Query.Phrase

/-!
# Query trees

A query with everything its evaluation would need: compiled patterns, signatures, offsets, fixed
times and the modifiers of binary operations. Trees may hold foreign nodes, which no query text
denotes.
-/

namespace QueryPolicy.Query

/-- How a matcher tests a label's value. -/
inductive MatcherTest
  | equal
  | notEqual
  | pattern (p : Pattern)
  | notPattern (p : Pattern)
  deriving DecidableEq

/-- A label matcher with its test. -/
structure TreeMatcher where
  name : String
  test : MatcherTest
  value : String
  deriving DecidableEq

/-- Whether the empty value, that of a missing label, passes. -/
def TreeMatcher.matchesEmpty (m : TreeMatcher) : Bool :=
  match m.test with
  | .equal => m.value.isEmpty
  | .notEqual => !m.value.isEmpty
  | .pattern p => p.matchesEmpty
  | .notPattern p => !p.matchesEmpty

/-- A shift of the evaluation time. -/
structure Offset where
  negative : Bool
  duration : Duration
  deriving DecidableEq

/-- A fixed evaluation time. -/
inductive Instant
  | start
  | end_
  | timestamp (time : Binary64)
  deriving DecidableEq

/-- A selector with its matchers, offset and fixed time. -/
structure TreeSelector where
  name : Option String
  matchers : List TreeMatcher
  orMatchers : List (List TreeMatcher)
  offset : Option Offset := none
  instant : Option Instant := none
  deriving DecidableEq

/-- All matchers, those of the alternatives last. -/
def TreeSelector.allMatchers (s : TreeSelector) : List TreeMatcher :=
  s.matchers ++ s.orMatchers.flatten

/-- The modifiers of a binary operation. -/
structure BinaryModifiers where
  returnBool : Bool
  matching : Option VectorMatching
  deriving DecidableEq

/-- A query tree. -/
inductive Tree
  | aggregate (op : Aggregator) (grouping : Option Grouping) (param : Option Tree) (body : Tree)
  | binary (op : BinaryOp) (lhs rhs : Tree) (modifiers : BinaryModifiers)
  | unary (operand : Tree)
  | paren (inner : Tree)
  | call (signature : Signature) (args : List Tree)
  | vector (selector : TreeSelector)
  | matrix (selector : TreeSelector) (range : Duration)
  | subquery (inner : Tree) (range : Duration) (step : Option Duration)
      (offset : Option Offset) (instant : Option Instant)
  | number (value : Binary64)
  | string (value : String)
  /-- A node of a kind that is not part of the language. -/
  | foreign (name : String) (type : ValueType)

namespace Tree

/-- The type of the value of a tree. -/
def valueType : Tree → ValueType
  | aggregate .. => .vector
  | binary _ lhs rhs _ =>
    if lhs.valueType = .scalar && rhs.valueType = .scalar then .scalar else .vector
  | unary operand => operand.valueType
  | paren inner => inner.valueType
  | call signature _ => signature.returns
  | vector _ => .vector
  | matrix .. => .matrix
  | subquery .. => .matrix
  | number _ => .scalar
  | string _ => .string
  | foreign _ type => type

end Tree

end QueryPolicy.Query

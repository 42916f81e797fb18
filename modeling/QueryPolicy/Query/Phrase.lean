import QueryPolicy.Query.Token

/-!
# Phrases

The grammatical form of a query, before numbers, durations, labels, patterns and types are looked
at. Forms that the grammar admits only to report them are phrases of their own.
-/

namespace QueryPolicy.Query

/-- A number or a duration as written; each may stand for the other. -/
inductive Quantity
  | number (text : String)
  | duration (text : String)
  deriving DecidableEq

/-- How a matcher between braces is written. -/
inductive MatcherPhrase
  /-- A label, an operator and a string. -/
  | comparison (label : String) (op : Mark) (value : String)
  /-- A second operator where the string should stand. -/
  | doubleOperator (second : Mark)
  /-- A word where the string should stand. -/
  | bareValue (word : String)
  /-- A label with no operator. -/
  | bareLabel (label : String)
  deriving DecidableEq

/-- Matchers between braces: each with whether `or` stands before it, or a lone comma. -/
inductive MatchersPhrase
  | list (matchers : List (Bool × MatcherPhrase))
  | loneComma
  deriving DecidableEq

/-- The clause of an aggregation. -/
inductive GroupingPhrase
  | byLabels (labels : List String)
  | withoutLabels (labels : List String)
  deriving DecidableEq

/-- Which side of a binary operation may have many matches. -/
inductive GroupSide
  | left | right
  deriving DecidableEq

/-- The label list of a vector match: `on` keeps the labels, `ignoring` drops them. -/
structure VectorMatching where
  keeps : Bool
  labels : List String
  group : Option (GroupSide × List String)
  deriving DecidableEq

/-- What stands between a binary operator and its right operand. -/
inductive OperatorPhrase
  | modifiers (returnBool : Bool) (matching : Option VectorMatching)
  /-- A group clause without a label list before it. -/
  | strayGroup (side : GroupSide)
  deriving DecidableEq

/-- The time that an `@` fixes. -/
inductive AtPhrase
  | timestamp (negative : Bool) (time : Quantity)
  | start
  | end_
  deriving DecidableEq

/-- The grammatical form of an expression. -/
inductive Phrase
  | number (value : Quantity)
  | string (value : String)
  | vector (name : Option String) (matchers : Option MatchersPhrase)
  | aggregate (op : Aggregator) (grouping : Option GroupingPhrase) (args : List (Option Phrase))
  /-- A call; an argument is missing where a comma is followed by none. -/
  | call (name : String) (args : List (Option Phrase))
  | paren (inner : Phrase)
  | plus (operand : Phrase)
  | minus (operand : Phrase)
  | binary (op : BinaryOp) (lhs : Phrase) (modifiers : OperatorPhrase) (rhs : Phrase)
  | offset (inner : Phrase) (negative : Bool) (duration : Quantity)
  | offsetAtEnd (inner : Phrase)
  | at_ (inner : Phrase) (time : AtPhrase)
  | atAtEnd (inner : Phrase)
  | matrix (inner : Phrase) (range : Quantity)
  | emptyRange (inner : Phrase)
  | subquery (inner : Phrase) (range : Quantity) (step : Option Quantity)

end QueryPolicy.Query

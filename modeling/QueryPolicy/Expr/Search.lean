import QueryPolicy.Expr.Walk

/-!
# Searches

What a traversal finds, in pre-order: nodes that satisfy a test, aggregations, calls, and label
matchers with the selector that owns them.
-/

namespace QueryPolicy.Expr

/-- The nodes that satisfy a test. -/
def findAll (e : Expr) (test : Expr → Bool) : List Expr := e.walk.toList.filter test

/-- Whether a node is an aggregation. -/
def isAggregation (e : Expr) : Bool := e.aggregation?.isSome

/-- Whether a node is a call. -/
def isAnyCall (e : Expr) : Bool := e.call?.isSome

/-- Whether a node is a call of the function `name`. -/
def isCall (name : String) : Expr → Bool
  | call name' _ => name' == name
  | _ => false

/-- The aggregations, outermost first. -/
def aggregations (e : Expr) : List Aggregation := e.walk.toList.filterMap aggregation?

/-- The calls, outermost first. -/
def calls (e : Expr) : List Call := e.walk.toList.filterMap call?

/-- The calls of one function. -/
def callsNamed (e : Expr) (name : String) : List Call := e.calls.filter (·.name == name)

/-- The label matchers, each with the selector that owns it. -/
def matchers (e : Expr) : List (LabelMatcher × Selector) :=
  (e.walk.toList.filterMap selector?).flatMap fun s => s.allMatchers.map (·, s)

end QueryPolicy.Expr

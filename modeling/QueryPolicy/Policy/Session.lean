import QueryPolicy.Policy.Validate

/-!
# Work on one policy set

A set that is emptied, configured and extended, and asked in between.
-/

namespace QueryPolicy

/-- A step of the work on a set. -/
inductive Step
  /-- Starts over with the empty set. -/
  | clear
  /-- Starts over with the set of a configuration. -/
  | configure (c : Config)
  /-- Adds a member at the end. -/
  | push (v : Validator)
  /-- Validates a text. -/
  | validate (text : String)
  /-- Checks an expression. -/
  | check (e : Expr)

/-- The answer to a step. -/
inductive Answer
  | done (log : List LogRecord)
  | outcome (o : Outcome)
  | verdict (v : Except Violation Unit)

namespace PolicySet

/-- The set after a step; questions leave it as it is. -/
def after (s : PolicySet) : Step → PolicySet
  | .clear => ∅
  | .configure c => ofConfig c
  | .push v => s.push v
  | .validate _ => s
  | .check _ => s

/-- The answer to a step. -/
def answer (s : PolicySet) : Step → Answer
  | .clear => .done []
  | .configure c => .done [(ofConfig c).builtRecord]
  | .push _ => .done []
  | .validate text => .outcome (s.validate text)
  | .check e => .verdict (s.check e)

/-- The set after a series of steps. -/
def afterAll (s : PolicySet) (steps : List Step) : PolicySet := steps.foldl after s

end PolicySet

end QueryPolicy

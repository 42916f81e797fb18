import QueryPolicy.Policy.Failure
import QueryPolicy.Policy.Set
import QueryPolicy.Query.Parse

/-!
# Validation of query texts

A text is parsed once and its expression checked. One record tells the verdict, whatever the number
of members; a text that is no query leaves none. Policies and sets word their records differently.
-/

namespace QueryPolicy

/-- The answer to the validation of a text, with the records written. -/
structure Outcome where
  result : Except Failure Unit
  log : List LogRecord

/-- Parses a text, checks its expression and records the verdict. -/
def Outcome.ofText (check : Expr → Except Violation Unit) (passed : LogRecord)
    (rejected : Violation → LogRecord) (text : String) : Outcome :=
  match Query.parse text with
  | .error e => ⟨.error (.ofError e), []⟩
  | .ok e =>
    match check e with
    | .ok () => ⟨.ok (), [passed]⟩
    | .error violation => ⟨.error (.ofViolation violation), [rejected violation]⟩

/-- Validates a text by one policy, whose name stands in both records. -/
def Policy.validate (p : Policy) : String → Outcome :=
  Outcome.ofText p.check ⟨.debug, "Query passed " ++ p.name ++ " policy"⟩ fun violation =>
    ⟨.info, "Query rejected by " ++ p.name ++ " policy: " ++ violation.message⟩

/-- Parses a text once and checks its expression against all members. The records tell the number of
members, or the rule that is violated. -/
def PolicySet.validate (s : PolicySet) : String → Outcome :=
  Outcome.ofText s.check ⟨.debug, "Query passed " ++ Nat.repr s.size ++ " policies"⟩
    fun violation =>
      ⟨.info, "Query rejected by " ++ violation.rule ++ " policy: " ++ violation.message⟩

/-- Validates a text, each kind of validator in its own way. -/
def Validator.validate : Validator → String → Outcome
  | policy p => p.validate
  | set members => PolicySet.validate ⟨members⟩

end QueryPolicy

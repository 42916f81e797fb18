import QueryPolicy.Query.Phrase.Reader
import QueryPolicy.Query.Tree.OfPhrase
import QueryPolicy.Query.Tree.ToExpr

/-!
# Queries

From the text of a query to the expression that policies inspect. Errors of the tokens come first,
then those of the grammar, then those of meaning.
-/

namespace QueryPolicy.Query

/-- The phrase of a text. -/
def phraseOf (text : String) : Except Error Phrase :=
  match tokens text with
  | .error cause => .error (.lexical cause)
  | .ok ts =>
    if ts = [.endOfInput] then .error .noExpression
    else
      match Phrase.ofTokens? ts with
      | some p => .ok p
      | none => .error .malformed

/-- The query tree of a text. -/
def treeOf (text : String) : Except Error Tree := do Tree.ofPhrase (← phraseOf text)

/-- The expression of a text. -/
def parse (text : String) : Except Error Expr := do Tree.toExpr (← treeOf text)

end QueryPolicy.Query

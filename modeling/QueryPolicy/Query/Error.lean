import QueryPolicy.Number.Decimal
import QueryPolicy.Query.Lexer
import QueryPolicy.Query.Phrase

/-!
# Errors in queries

Every cause for which a text is no query, with its message.
-/

namespace QueryPolicy.Query

/-- Why a text is no query. -/
inductive Error
  | lexical (cause : LexicalError)
  | noExpression
  | malformed
  -- Parts of the grammar that stand only to be reported.
  | offsetAtEnd
  | atAtEnd
  | emptyRange
  | trailingComma
  | strayGroup (side : GroupSide)
  | loneComma
  | doubleOperator (second : Mark)
  | bareValue (word : String)
  | bareLabel (label : String)
  -- Literals and names.
  | notAnInteger (text : String)
  | notANumber (text : String)
  | invalidDuration (text : String)
  | zeroDuration
  | durationOutOfRange
  | timestampOutOfBounds (time : Binary64)
  | illegalPattern (value : String)
  | invalidLabel (text : String)
  | unknownFunction (name : String)
  -- Shapes.
  | noAggregateArguments (op : Aggregator)
  | aggregateArgumentCount (expected actual : Nat)
  | negatedLiteral (type : ValueType)
  | offsetBeforeRange
  | atBeforeRange
  | rangeOfNonSelector
  | repeatedOffset
  | repeatedAt
  | misplacedOffset
  | misplacedAt
  -- Selectors.
  | nameSetTwice (name value : String)
  | onlyEmptyMatchers
  -- Types.
  | boolWithoutComparison
  | scalarComparison
  | labelInOnAndGroup (label : String)
  | setOperatorOnScalar (op : BinaryOp)
  | groupOnSetOperator (op : BinaryOp)
  | binaryOperandType
  | matchingOnScalar
  | aggregateType (expected actual : ValueType)
  | tooFewArguments (least : Nat) (function : String) (actual : Nat)
  | tooManyArguments (most : Nat) (function : String) (actual : Nat)
  | argumentCount (expected : Nat) (function : String) (actual : Nat)
  | argumentType (expected : ValueType) (function : String) (actual : ValueType)
  | unaryOperandType (actual : ValueType)
  | subqueryOperandType (actual : ValueType)
  | unsupportedExpression
  deriving DecidableEq

/-- The written form of an operator of label matchers. -/
def Mark.renderMatchOp : Mark → String
  | .assign => "="
  | .ne => "!="
  | .regexMatch => "=~"
  | .regexNotMatch => "!~"
  | _ => ""

namespace Error

/-- What a modifier may be applied to. -/
def modifiable : String := "an vector selector or matrix selector or a subquery"

/-- The message to the author of the query. -/
def message : Error → String
  | lexical cause => cause.message
  | noExpression => "no expression found in input"
  | malformed => "invalid promql query"
  | offsetAtEnd => "unexpected end of input in offset, expected duration"
  | atAtEnd => "unexpected end of input in @, expected timestamp"
  | emptyRange => "missing unit character in duration"
  | trailingComma => "trailing commas not allowed in function call args"
  | strayGroup .left => "unexpected <group_left>"
  | strayGroup .right => "unexpected <group_right>"
  | loneComma => "unexpected ',' in label matching, expected identifier or right_brace"
  | doubleOperator second =>
    "unexpected '" ++ second.renderMatchOp ++ "' in label matching, expected string"
  | bareValue word => "unexpected identifier '" ++ word ++ "' in label matching, expected string"
  | bareLabel label =>
    "invalid label matcher, expected label matching operator after '" ++ label ++ "'"
  | notAnInteger text => "ParseFloatError. " ++ text ++ " can't be parsed into i64"
  | notANumber text => "ParseFloatError. " ++ text ++ " can't be parsed into f64"
  | invalidDuration text => "not a valid duration string: " ++ text
  | zeroDuration => "duration must be greater than 0"
  | durationOutOfRange => "duration out of range"
  | timestampOutOfBounds time => "timestamp out of bounds for @ modifier: " ++ time.toText
  | illegalPattern value => "illegal regex for " ++ value
  | invalidLabel text => text ++ " is not valid label in grouping opts"
  | unknownFunction name => "unknown function with name '" ++ name ++ "'"
  | noAggregateArguments op => "no arguments for aggregate expression '" ++ op.name ++ "' provided"
  | aggregateArgumentCount expected actual =>
    "wrong number of arguments for aggregate expression provided, expected " ++
      Nat.repr expected ++ ", got " ++ Nat.repr actual
  | negatedLiteral type =>
    "unary expression only allowed on expressions of type scalar or vector, got: " ++ type.name
  | offsetBeforeRange => "no offset modifiers allowed before range"
  | atBeforeRange => "no @ modifiers allowed before range"
  | rangeOfNonSelector => "ranges only allowed for vector selectors"
  | repeatedOffset => "offset may not be set multiple times"
  | repeatedAt => "@ <timestamp> may not be set multiple times"
  | misplacedOffset => "offset modifier must be preceded by " ++ modifiable
  | misplacedAt => "@ modifier must be preceded by " ++ modifiable
  | nameSetTwice name value =>
    "metric name must not be set twice: '" ++ name ++ "' or '" ++ value ++ "'"
  | onlyEmptyMatchers => "vector selector must contain at least one non-empty matcher"
  | boolWithoutComparison => "bool modifier can only be used on comparison operators"
  | scalarComparison => "comparisons between scalars must use BOOL modifier"
  | labelInOnAndGroup label =>
    "label '" ++ label ++ "' must not occur in ON and GROUP clause at once"
  | setOperatorOnScalar op =>
    "set operator '" ++ op.render ++ "' not allowed in binary scalar expression"
  | groupOnSetOperator op => "no grouping allowed for '" ++ op.render ++ "' operation"
  | binaryOperandType => "binary expression must contain only scalar and instant vector types"
  | matchingOnScalar => "vector matching only allowed between vectors"
  | aggregateType expected actual =>
    "expected type " ++ expected.name ++ " in aggregation expression, got " ++ actual.name
  | tooFewArguments least function actual =>
    "expected at least " ++ Nat.repr least ++ " argument(s) in call to '" ++ function ++
      "', got " ++ Nat.repr actual
  | tooManyArguments most function actual =>
    "expected at most " ++ Nat.repr most ++ " argument(s) in call to '" ++ function ++
      "', got " ++ Nat.repr actual
  | argumentCount expected function actual =>
    "expected " ++ Nat.repr expected ++ " argument(s) in call to '" ++ function ++
      "', got " ++ Nat.repr actual
  | argumentType expected function actual =>
    "expected type " ++ expected.name ++ " in call to function '" ++ function ++
      "', got " ++ actual.name
  | unaryOperandType actual =>
    "unary expression only allowed on expressions of type scalar or vector, got " ++ actual.name
  | subqueryOperandType actual =>
    "subquery is only allowed on vector, got " ++ actual.name ++ " instead"
  | unsupportedExpression => "unsupported expression"

end Error

end QueryPolicy.Query

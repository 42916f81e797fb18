import QueryPolicy.Query.Phrase
import QueryPolicy.Text.Rest

/-!
# Phrases of tokens

Precedence climbing over the tokens of a query. Each reading function answers what it read and how
many tokens it took; it fails where no phrase of the grammar goes on.
-/

namespace QueryPolicy.Query

/-- What was read, and the number of tokens it took; `none` if the tokens form no such part. -/
abbrev Reading (α : Type) := Option (α × Nat)

/-! ## Labels -/

/-- The label that a word is in a list of labels: any word but `without`. -/
def Token.label? : Token → Option String
  | .word (.keyword .without) _ => none
  | .word _ text => some text
  | _ => none

/-- The labels of a list after its parenthesis, a trailing comma included. -/
def labelsTail? : List Token → Reading (List String)
  | .mark .rightParen :: _ => some ([], 1)
  | t :: .mark .rightParen :: _ => t.label?.map fun l => ([l], 2)
  | t :: .mark .comma :: ts =>
    match t.label?, labelsTail? ts with
    | some l, some (ls, n) => some (l :: ls, n + 2)
    | _, _ => none
  | _ => none

/-- A list of labels between parentheses. -/
def labels? : List Token → Reading (List String)
  | .mark .leftParen :: ts => (labelsTail? ts).map fun (ls, n) => (ls, n + 1)
  | _ => none

/-! ## Matchers -/

/-- Whether a mark is an operator of label matchers. -/
def Mark.isMatchOp : Mark → Bool
  | .assign | .ne | .regexMatch | .regexNotMatch => true
  | _ => false

/-- The rest of a matcher after its label and operator. -/
def matcherValue? (label : String) (op : Mark) : List Token → Reading MatcherPhrase
  | .string value :: _ => some (.comparison label op value, 1)
  | .word .identifier word :: _ => some (.bareValue word, 1)
  | .mark second :: ts =>
    if second.isMatchOp then
      match ts with
      | .string _ :: _ => some (.doubleOperator second, 2)
      | .word .identifier _ :: _ => some (.doubleOperator second, 2)
      | _ => some (.doubleOperator second, 1)
    else none
  | _ => none

/-- A matcher after its label. -/
def matcherTail? (label : String) : List Token → Reading MatcherPhrase
  | .mark op :: ts =>
    if op.isMatchOp then (matcherValue? label op ts).map fun (m, n) => (m, n + 1)
    else some (.bareLabel label, 0)
  | _ => some (.bareLabel label, 0)

/-- A list of matchers up to the closing brace; `joined` says whether `or` stands before the first
one. -/
def matcherList? (joined : Bool) : List Token → Reading (List (Bool × MatcherPhrase))
  | .word .identifier label :: ts =>
    match matcherTail? label ts with
    | none => none
    | some (m, n) =>
      match ts.drop n with
      | .mark .rightBrace :: _ => some ([(joined, m)], n + 2)
      | .mark .comma :: .mark .rightBrace :: _ => some ([(joined, m)], n + 3)
      | .mark .comma :: _ =>
        (matcherList? false (ts.drop (n + 1))).map fun (ms, k) => ((joined, m) :: ms, k + n + 2)
      | .word (.keyword .setOr) _ :: _ =>
        (matcherList? true (ts.drop (n + 1))).map fun (ms, k) => ((joined, m) :: ms, k + n + 2)
      | _ => none
  | _ => none
termination_by ts => ts.length
decreasing_by all_goals simp only [List.length_drop, List.length_cons]; omega

/-- Matchers after their opening brace. -/
def matchers? : List Token → Reading MatchersPhrase
  | .mark .rightBrace :: _ => some (.list [], 1)
  | .mark .comma :: .mark .rightBrace :: _ => some (.loneComma, 2)
  | ts => (matcherList? false ts).map fun (ms, n) => (.list ms, n)

/-! ## What follows an operand -/

/-- A number or a duration. -/
def Token.quantity? : Token → Option Quantity
  | .number text => some (.number text)
  | .duration text => some (.duration text)
  | _ => none

/-- A number or a duration with an optional sign; the flag says whether it is a minus. -/
def signedQuantity? : List Token → Reading (Bool × Quantity)
  | .mark .add :: t :: _ => t.quantity?.map fun q => ((false, q), 2)
  | .mark .sub :: t :: _ => t.quantity?.map fun q => ((true, q), 2)
  | t :: _ => t.quantity?.map fun q => ((false, q), 1)
  | [] => none

/-- What an `@` applies to an operand. -/
def atTail? (inner : Phrase) : List Token → Reading Phrase
  | .endOfInput :: _ => some (.atAtEnd inner, 1)
  | .word (.keyword .start) _ :: .mark .leftParen :: .mark .rightParen :: _ =>
    some (.at_ inner .start, 3)
  | .word (.keyword .end_) _ :: .mark .leftParen :: .mark .rightParen :: _ =>
    some (.at_ inner .end_, 3)
  | ts => (signedQuantity? ts).map fun ((negative, q), n) => (.at_ inner (.timestamp negative q), n)

/-- What `offset` applies to an operand. -/
def offsetTail? (inner : Phrase) : List Token → Reading Phrase
  | .endOfInput :: _ => some (.offsetAtEnd inner, 1)
  | ts => (signedQuantity? ts).map fun ((negative, q), n) => (.offset inner negative q, n)

/-- What a bracket applies to an operand. -/
def rangeTail? (inner : Phrase) : List Token → Reading Phrase
  | .mark .rightBracket :: _ => some (.emptyRange inner, 1)
  | t :: .mark .rightBracket :: _ => t.quantity?.map fun q => (.matrix inner q, 2)
  | t :: .mark .colon :: .mark .rightBracket :: _ =>
    t.quantity?.map fun q => (.subquery inner q none, 3)
  | t :: .mark .colon :: t' :: .mark .rightBracket :: _ =>
    match t.quantity?, t'.quantity? with
    | some q, some q' => some (.subquery inner q (some q'), 4)
    | _, _ => none
  | _ => none

/-- The ranges, offsets and times that follow an operand, as many as there are. -/
def suffixes? (inner : Phrase) : List Token → Reading Phrase
  | [] => some (inner, 0)
  | t :: ts =>
    let one? : Option (Reading Phrase) :=
      match t with
      | .mark .leftBracket => some (rangeTail? inner ts)
      | .mark .at_ => some (atTail? inner ts)
      | .word (.keyword .offset) _ => some (offsetTail? inner ts)
      | _ => none
    match one? with
    | none => some (inner, 0)
    | some none => none
    | some (some (p, n)) => (suffixes? p (ts.drop n)).map fun (q, k) => (q, k + n + 1)
termination_by ts => ts.length
decreasing_by simp only [List.length_drop, List.length_cons]; omega

/-! ## Operators -/

/-- The binary operator that a token is. -/
def Token.binaryOp? : Token → Option BinaryOp
  | .mark .add => some .add
  | .mark .sub => some .sub
  | .mark .mul => some .mul
  | .mark .div => some .div
  | .mark .mod => some .mod
  | .mark .pow => some .pow
  | .mark .eqeq => some .eq
  | .mark .ne => some .ne
  | .mark .gt => some .gt
  | .mark .ge => some .ge
  | .mark .lt => some .lt
  | .mark .le => some .le
  | .word (.keyword .atan2) _ => some .atan2
  | .word (.keyword .setAnd) _ => some .setAnd
  | .word (.keyword .setOr) _ => some .setOr
  | .word (.keyword .setUnless) _ => some .setUnless
  | _ => none

/-- The side that a group clause names. -/
def Token.groupSide? : Token → Option GroupSide
  | .word (.keyword .groupLeft) _ => some .left
  | .word (.keyword .groupRight) _ => some .right
  | _ => none

/-- A group clause after a list of matching labels, if there is one. A parenthesis after it always
opens its labels. -/
def groupClause? : List Token → Reading (Option (GroupSide × List String))
  | [] => some (none, 0)
  | t :: ts =>
    match t.groupSide? with
    | none => some (none, 0)
    | some side =>
      match ts with
      | .mark .leftParen :: _ => (labels? ts).map fun (ls, n) => (some (side, ls), n + 1)
      | _ => some (some (side, []), 1)

/-- The labels on which vectors are matched, if they are given. -/
def matching? : List Token → Reading (Option VectorMatching)
  | [] => some (none, 0)
  | t :: ts =>
    let keeps? : Option Bool :=
      match t with
      | .word (.keyword .on) _ => some true
      | .word (.keyword .ignoring) _ => some false
      | _ => none
    match keeps? with
    | none => some (none, 0)
    | some keeps =>
      match labels? ts with
      | none => none
      | some (ls, n) =>
        (groupClause? (ts.drop n)).map fun (group, k) => (some ⟨keeps, ls, group⟩, k + n + 1)

/-- What stands between a binary operator and its right operand. -/
def operatorPhrase? : List Token → Reading OperatorPhrase
  | [] => some (.modifiers false none, 0)
  | t :: ts =>
    match t.groupSide?, t with
    | some side, _ => (labels? ts).map fun (_, n) => (.strayGroup side, n + 1)
    | none, .word (.keyword .bool) _ => (matching? ts).map fun (m, n) => (.modifiers true m, n + 1)
    | none, _ => (matching? (t :: ts)).map fun (m, n) => (.modifiers false m, n)

/-! ## Expressions -/

/-- Whether a word can name a metric. -/
def WordKind.isMetricName : WordKind → Bool
  | .identifier => true
  | .metricIdentifier => true
  | .keyword (.aggregator _) => true
  | .keyword .by_ => true
  | .keyword .without => true
  | .keyword .setAnd => true
  | .keyword .setOr => true
  | .keyword .setUnless => true
  | .keyword .offset => true
  | .keyword .start => true
  | .keyword .end_ => true
  | .keyword _ => false

/-- A metric name with the matchers that may follow it. -/
def namedVector? (name : String) : List Token → Reading Phrase
  | .mark .leftBrace :: ts =>
    (matchers? ts).map fun (ms, n) => (.vector (some name) (some ms), n + 1)
  | _ => some (.vector (some name) none, 0)

/-- The clause of an aggregation, if one stands here. -/
def grouping? : List Token → Reading (Option GroupingPhrase)
  | .word (.keyword .by_) _ :: ts =>
    (labels? ts).map fun (ls, n) => (some (.byLabels ls), n + 1)
  | .word (.keyword .without) _ :: ts =>
    (labels? ts).map fun (ls, n) => (some (.withoutLabels ls), n + 1)
  | _ => some (none, 0)

/-- Whether an aggregation operator followed by these tokens is applied and not a metric name. -/
def isApplied : List Token → Bool
  | .mark .leftParen :: _ => true
  | .word (.keyword .by_) _ :: _ => true
  | .word (.keyword .without) _ :: _ => true
  | _ => false

mutual

/-- An expression whose binary operators bind at least as tightly as `level`. -/
def expression? (level : Nat) : List Token → Reading Phrase
  | [] => none
  | t :: ts =>
    match operand? t ts with
    | none => none
    | some (p, n) => (operators? level p (ts.drop n)).map fun (q, k) => (q, k + n + 1)
termination_by ts => 6 * ts.length + 3
decreasing_by all_goals grind

/-- An operand from its first token on: a signed one, or one with its suffixes. The count leaves
the first token out. -/
def operand? (t : Token) (ts : List Token) : Reading Phrase :=
  match t with
  | .mark .add => (expression? signOperandPrecedence ts).map fun (p, n) => (.plus p, n)
  | .mark .sub => (expression? signOperandPrecedence ts).map fun (p, n) => (.minus p, n)
  | t =>
    match primary? t ts with
    | none => none
    | some (p, n) => (suffixes? p (ts.drop n)).map fun (q, k) => (q, k + n)
termination_by 6 * (ts.length + 1) + 2
decreasing_by all_goals grind

/-- The binary operators that follow a left operand and bind at least as tightly as `level`. -/
def operators? (level : Nat) (lhs : Phrase) : List Token → Reading Phrase
  | [] => some (lhs, 0)
  | t :: ts =>
    match t.binaryOp? with
    | none => some (lhs, 0)
    | some op =>
      if op.precedence < level then some (lhs, 0)
      else
        match operatorPhrase? ts with
        | none => none
        | some (modifiers, n) =>
          match expression? op.rightPrecedence (ts.drop n) with
          | none => none
          | some (rhs, k) =>
            (operators? level (.binary op lhs modifiers rhs) (ts.drop (n + k))).map
              fun (p, j) => (p, j + n + k + 1)
termination_by ts => 6 * ts.length + 1
decreasing_by all_goals grind

/-- An operand without sign and suffixes. The count leaves the first token out. -/
def primary? (t : Token) (ts : List Token) : Reading Phrase :=
  match t with
  | .number text => some (.number (.number text), 0)
  | .duration text => some (.number (.duration text), 0)
  | .string value => some (.string value, 0)
  | .mark .leftBrace => (matchers? ts).map fun (ms, n) => (.vector none (some ms), n)
  | .mark .leftParen =>
    match expression? 0 ts with
    | none => none
    | some (p, n) =>
      if (ts.drop n).head? = some (.mark .rightParen) then some (.paren p, n + 1) else none
  | .word (.keyword (.aggregator op)) text =>
    if isApplied ts then aggregate? op ts else namedVector? text ts
  | .word .identifier text =>
    match ts with
    | .mark .leftParen :: ts' => (args? ts').map fun (as, n) => (.call text as, n + 1)
    | _ => namedVector? text ts
  | .word kind text => if kind.isMetricName then namedVector? text ts else none
  | _ => none
termination_by 6 * (ts.length + 1) + 1
decreasing_by all_goals grind

/-- An aggregation after its operator: the clause before the arguments, after them, or nowhere. -/
def aggregate? (op : Aggregator) (ts : List Token) : Reading Phrase :=
  match grouping? ts with
  | none => none
  | some (before, n) =>
    match _ : ts.drop n with
    | .mark .leftParen :: ts' =>
      match args? ts' with
      | none => none
      | some (as, k) =>
        if before.isSome then some (.aggregate op before as, n + k + 1)
        else
          (grouping? (ts'.drop k)).map fun (after, j) => (.aggregate op after as, j + n + k + 1)
    | _ => none
termination_by 6 * (ts.length + 1) + 0
decreasing_by grind [→ Text.length_lt_of_drop_eq_cons]

/-- Arguments after their parenthesis, with the closing one. -/
def args? (ts : List Token) : Reading (List (Option Phrase)) :=
  match ts with
  | .mark .rightParen :: _ => some ([], 1)
  | ts =>
    match expression? 0 ts with
    | none => none
    | some (p, n) => (argsTail? (ts.drop n)).map fun (as, k) => (some p :: as, k + n)
termination_by 6 * ts.length + 5
decreasing_by all_goals grind

/-- Further arguments, each after a comma; the argument may be missing. -/
def argsTail? : List Token → Reading (List (Option Phrase))
  | .mark .rightParen :: _ => some ([], 1)
  | .mark .comma :: .mark .rightParen :: _ => some ([none], 2)
  | .mark .comma :: .mark .comma :: ts =>
    (argsTail? (.mark .comma :: ts)).map fun (as, k) => (none :: as, k + 1)
  | .mark .comma :: ts =>
    match expression? 0 ts with
    | none => none
    | some (p, n) => (argsTail? (ts.drop n)).map fun (as, k) => (some p :: as, k + n + 1)
  | _ => none
termination_by ts => 6 * ts.length + 4
decreasing_by all_goals grind

end

/-- The phrase of all tokens of a query. A phrase that reports a missing part at the end may take
the end of input itself. -/
def Phrase.ofTokens? (ts : List Token) : Option Phrase :=
  match expression? 0 ts with
  | some (p, n) => if ts.drop n = [] || ts.drop n = [.endOfInput] then some p else none
  | none => none

end QueryPolicy.Query

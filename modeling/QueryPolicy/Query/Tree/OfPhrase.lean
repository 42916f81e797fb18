import QueryPolicy.Query.Tree.Typing

/-!
# Query trees of phrases

Literals, labels and patterns are read, nodes are built and typed, in the order in which errors are
reported: parts of a phrase from left to right, then the phrase itself.
-/

namespace QueryPolicy.Query

/-! ## Literals -/

/-- Whether a numeral in lower case is an integer in base 16 or 8. -/
def isRadixNumeral (cs : List Char) : Bool :=
  cs.contains 'x' ||
    (cs.head? = some '0' && cs ≠ ['0'] && cs.all fun c => c != '.' && c != '8' && c != '9')

/-- The integer of a numeral in base 16, marked by `0x`, or else in base 8, marked by `0`. -/
def radixInteger? (cs : List Char) : Option Int :=
  match cs with
  | '0' :: 'x' :: digits => intOfDigits? 16 digits
  | '0' :: digits => intOfDigits? 8 digits
  | digits => intOfDigits? 8 digits

/-- The value of a number literal. Integers in another base must fit 64 bits with a sign. -/
def numberOfText (text : String) : Except Error Binary64 :=
  let cs := text.toList.map Char.toLower
  if isRadixNumeral cs then
    match radixInteger? cs with
    | some n =>
      if -Int.pow 2 63 ≤ n && n < Int.pow 2 63 then .ok (Binary64.ofInt n)
      else .error (.notAnInteger text)
    | none => .error (.notAnInteger text)
  else
    match Binary64.ofText? cs with
    | some x => .ok x
    | none => .error (.notANumber text)

/-- The value of a duration literal, which is never zero. -/
def durationOfText (text : String) : Except Error Duration :=
  match Duration.ofText? text.toList with
  | some d => if d.nanoseconds = 0 then .error .zeroDuration else .ok d
  | none => .error (.invalidDuration text)

/-- A quantity as a number; a duration counts its seconds. -/
def Quantity.toNumber : Quantity → Except Error Binary64
  | number text => numberOfText text
  | duration text => (durationOfText text).map Duration.toSeconds

/-- A quantity as a duration; a number counts seconds. -/
def Quantity.toDuration : Quantity → Except Error Duration
  | duration text => durationOfText text
  | number text => do
    match Duration.ofSeconds? (← numberOfText text) with
    | some d => .ok d
    | none => .error .durationOutOfRange

/-! ## Labels and matchers -/

/-- A label starts with a letter or an underscore; digits may follow. -/
def checkLabel (text : String) : Except Error String :=
  match text.toList with
  | c :: cs => if isAlpha c && cs.all isAlnum then .ok text else .error (.invalidLabel text)
  | [] => .error (.invalidLabel text)

/-- The labels of a list, each checked. -/
def checkLabels (labels : List String) : Except Error (List String) := labels.mapM checkLabel

/-- The clause of an aggregation with its labels checked. -/
def GroupingPhrase.toGrouping : GroupingPhrase → Except Error Grouping
  | byLabels labels => (checkLabels labels).map .byLabels
  | withoutLabels labels => (checkLabels labels).map .withoutLabels

/-- The modifiers of a binary operation with their labels checked. -/
def OperatorPhrase.toModifiers : OperatorPhrase → Except Error BinaryModifiers
  | strayGroup side => .error (.strayGroup side)
  | modifiers returnBool none => .ok ⟨returnBool, none⟩
  | modifiers returnBool (some m) => do
    let labels ← checkLabels m.labels
    match m.group with
    | none => .ok ⟨returnBool, some ⟨m.keeps, labels, none⟩⟩
    | some (side, groupLabels) =>
      let groupLabels ← checkLabels groupLabels
      .ok ⟨returnBool, some ⟨m.keeps, labels, some (side, groupLabels)⟩⟩

/-- The test of an operator, with its pattern compiled. -/
def testOf (op : Mark) (value : String) : Except Error MatcherTest :=
  let compiled : Except Error Pattern :=
    match Pattern.ofValue? value with
    | some p => .ok p
    | none => .error (.illegalPattern value)
  match op with
  | .regexMatch => compiled.map .pattern
  | .regexNotMatch => compiled.map .notPattern
  | .ne => .ok .notEqual
  | _ => .ok .equal

/-- A matcher with its test. -/
def MatcherPhrase.toMatcher : MatcherPhrase → Except Error TreeMatcher
  | comparison label op value => (testOf op value).map (⟨label, ·, value⟩)
  | doubleOperator second => .error (.doubleOperator second)
  | bareValue word => .error (.bareValue word)
  | bareLabel label => .error (.bareLabel label)

/-- Matchers outside alternatives, and alternatives. -/
structure MatcherGroups where
  matchers : List TreeMatcher := []
  orMatchers : List (List TreeMatcher) := []

namespace MatcherGroups

/-- Adds a matcher to the last alternative if there is one, else to those outside. -/
def addJoined (g : MatcherGroups) (m : TreeMatcher) : MatcherGroups :=
  match g.orMatchers.getLast? with
  | some last => { g with orMatchers := g.orMatchers.dropLast ++ [last ++ [m]] }
  | none => { g with matchers := g.matchers ++ [m] }

/-- Adds a matcher as a further alternative. The matchers so far outside become the first one. -/
def addAlternative (g : MatcherGroups) (m : TreeMatcher) : MatcherGroups :=
  if g.matchers.isEmpty then { g with orMatchers := g.orMatchers ++ [[m]] }
  else { matchers := [], orMatchers := g.orMatchers ++ [g.matchers, [m]] }

/-- Adds a matcher before which `or` stands or not. -/
def add (g : MatcherGroups) (joined : Bool) (m : TreeMatcher) : MatcherGroups :=
  if joined then g.addAlternative m else g.addJoined m

end MatcherGroups

/-- The groups of a list of matchers. -/
def MatchersPhrase.toGroups : MatchersPhrase → Except Error MatcherGroups
  | loneComma => .error .loneComma
  | list ms => ms.foldlM (fun g (joined, m) => (m.toMatcher).map (g.add joined)) {}

/-! ## Nodes -/

namespace Tree

/-- An aggregation of its arguments: the last one is aggregated, one before it is the parameter. -/
def ofAggregate (op : Aggregator) (grouping : Option Grouping) (args : List Tree) :
    Except Error Tree :=
  let expected := if op.paramType?.isSome then 2 else 1
  match args with
  | [] => .error (.noAggregateArguments op)
  | [body] =>
    if expected = 1 then .ok (aggregate op grouping none body)
    else .error (.aggregateArgumentCount expected 1)
  | [param, body] =>
    if expected = 2 then .ok (aggregate op grouping (some param) body)
    else .error (.aggregateArgumentCount expected 2)
  | args => .error (.aggregateArgumentCount expected args.length)

/-- The negation of a tree; a number literal is negated itself. -/
def negated : Tree → Except Error Tree
  | string _ => .error (.negatedLiteral .string)
  | matrix .. => .error (.negatedLiteral .matrix)
  | number x => .ok (number (-x))
  | t => .ok (unary t)

/-- The range of a selector, which may have neither offset nor fixed time yet. -/
def withRange (t : Tree) (range : Duration) : Except Error Tree :=
  match t with
  | vector s =>
    if s.offset.isSome then .error .offsetBeforeRange
    else if s.instant.isSome then .error .atBeforeRange
    else .ok (matrix s range)
  | _ => .error .rangeOfNonSelector

/-- Sets the offset of a selection or subquery that has none. -/
def withOffset (t : Tree) (offset : Offset) : Except Error Tree :=
  match t with
  | vector s =>
    if s.offset.isSome then .error .repeatedOffset
    else .ok (vector { s with offset := some offset })
  | matrix s range =>
    if s.offset.isSome then .error .repeatedOffset
    else .ok (matrix { s with offset := some offset } range)
  | subquery inner range step old instant =>
    if old.isSome then .error .repeatedOffset
    else .ok (subquery inner range step (some offset) instant)
  | _ => .error .misplacedOffset

/-- Fixes the time of a selection or subquery that has none. -/
def withInstant (t : Tree) (instant : Instant) : Except Error Tree :=
  match t with
  | vector s =>
    if s.instant.isSome then .error .repeatedAt
    else .ok (vector { s with instant := some instant })
  | matrix s range =>
    if s.instant.isSome then .error .repeatedAt
    else .ok (matrix { s with instant := some instant } range)
  | subquery inner range step offset old =>
    if old.isSome then .error .repeatedAt
    else .ok (subquery inner range step offset (some instant))
  | _ => .error .misplacedAt

/-- A tree, if it meets the conditions on its root. -/
def checked (t : Tree) : Except Error Tree := do
  t.check
  .ok t

end Tree

/-- The time that an `@` fixes. A timestamp lies below the greatest finite number in magnitude. -/
def AtPhrase.toInstant : AtPhrase → Except Error Instant
  | start => .ok .start
  | end_ => .ok .end_
  | timestamp negative time => do
    let x ← time.toNumber
    let x := if negative then -x else x
    if x.magnitude < Binary64.greatestMagnitude then .ok (.timestamp x)
    else .error (.timestampOutOfBounds x)

/-- A selector without offset and fixed time. -/
def selectorOfPhrase (name : Option String) (matchers : Option MatchersPhrase) :
    Except Error TreeSelector := do
  match matchers with
  | none => .ok { name := name, matchers := [], orMatchers := [] }
  | some ms =>
    let groups ← ms.toGroups
    .ok { name := name, matchers := groups.matchers, orMatchers := groups.orMatchers }

/-- An optional clause of an aggregation with its labels checked. -/
def groupingOfPhrase : Option GroupingPhrase → Except Error (Option Grouping)
  | none => .ok none
  | some g => g.toGrouping.map some

/-- An optional step of a subquery. -/
def stepOfPhrase : Option Quantity → Except Error (Option Duration)
  | none => .ok none
  | some q => q.toDuration.map some

namespace Tree

mutual

/-- The tree of a phrase, each node checked once its parts are. -/
def ofPhrase : Phrase → Except Error Tree
  | .number q => do checked (number (← q.toNumber))
  | .string value => checked (string value)
  | .vector name matchers => do checked (vector (← selectorOfPhrase name matchers))
  | .aggregate op grouping args => do
    let grouping ← groupingOfPhrase grouping
    let args ← ofArgs (args.any (·.isNone)) args
    checked (← ofAggregate op grouping args)
  | .call name args => do
    match Signature.find? name with
    | none => .error (.unknownFunction name)
    | some s =>
      let args ← ofArgs (args.any (·.isNone)) args
      checked (call s args)
  | .paren inner => do checked (paren (← ofPhrase inner))
  | .plus operand => do checked (← ofPhrase operand)
  | .minus operand => do checked (← negated (← ofPhrase operand))
  | .binary op lhs modifiers rhs => do
    let lhs ← ofPhrase lhs
    let modifiers ← modifiers.toModifiers
    let rhs ← ofPhrase rhs
    checked (binary op lhs rhs modifiers)
  | .offset inner negative duration => do
    let inner ← ofPhrase inner
    let duration ← duration.toDuration
    checked (← inner.withOffset ⟨negative, duration⟩)
  | .offsetAtEnd _ => .error .offsetAtEnd
  | .at_ inner time => do
    let inner ← ofPhrase inner
    let instant ← time.toInstant
    checked (← inner.withInstant instant)
  | .atAtEnd _ => .error .atAtEnd
  | .matrix inner range => do
    let inner ← ofPhrase inner
    let range ← range.toDuration
    checked (← inner.withRange range)
  | .emptyRange _ => .error .emptyRange
  | .subquery inner range step => do
    let inner ← ofPhrase inner
    let range ← range.toDuration
    let step ← stepOfPhrase step
    checked (subquery inner range step none none)

/-- The trees of arguments. A missing argument is reported before all else in the list. -/
def ofArgs (missing : Bool) : List (Option Phrase) → Except Error (List Tree)
  | [] => .ok []
  | arg :: args => do
    if missing then .error .trailingComma
    else
      let tree ← ofArg arg
      let trees ← ofArgs false args
      .ok (tree :: trees)

/-- The tree of an argument. -/
def ofArg : Option Phrase → Except Error Tree
  | none => .error .trailingComma
  | some p => ofPhrase p

end

end Tree

end QueryPolicy.Query

import QueryPolicy.Query.Operator

/-!
# Tokens of the query language
-/

namespace QueryPolicy.Query

/-- The words that have a meaning of their own, whatever the case of their letters. -/
inductive Keyword
  | aggregator (op : Aggregator)
  | setAnd | setOr | setUnless | atan2
  | offset | by_ | without | on | ignoring | groupLeft | groupRight | bool | start | end_
  deriving DecidableEq

/-- The keyword that a word in lower case spells. -/
def Keyword.ofWord? (word : String) : Option Keyword :=
  match Aggregator.all.find? (·.name == word) with
  | some op => some (.aggregator op)
  | none =>
    match word with
    | "and" => some .setAnd
    | "or" => some .setOr
    | "unless" => some .setUnless
    | "atan2" => some .atan2
    | "offset" => some .offset
    | "by" => some .by_
    | "without" => some .without
    | "on" => some .on
    | "ignoring" => some .ignoring
    | "group_left" => some .groupLeft
    | "group_right" => some .groupRight
    | "bool" => some .bool
    | "start" => some .start
    | "end" => some .end_
    | _ => none

/-- The kinds of words. -/
inductive WordKind
  | identifier
  | metricIdentifier
  | keyword (k : Keyword)
  deriving DecidableEq

/-- Marks and operators. -/
inductive Mark
  | comma | colon | at_
  | leftParen | rightParen | leftBrace | rightBrace | leftBracket | rightBracket
  | add | sub | mul | div | mod | pow
  | eqeq | ne | lt | le | gt | ge
  | assign | regexMatch | regexNotMatch
  deriving DecidableEq

/-- A token. Words keep their spelling, strings the text between their quotation marks as
written. -/
inductive Token
  | number (text : String)
  | duration (text : String)
  | string (value : String)
  | word (kind : WordKind) (text : String)
  | mark (m : Mark)
  | endOfInput
  deriving DecidableEq

end QueryPolicy.Query

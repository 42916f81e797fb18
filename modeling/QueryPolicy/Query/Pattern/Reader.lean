import QueryPolicy.Query.Pattern.Class
import QueryPolicy.Query.Pattern.Size
import QueryPolicy.Text.Alphabetic

/-!
# Reading regular expressions

A text is a pattern if it follows the grammar, nests no deeper than a bound, and its automaton is
small enough.
-/

namespace QueryPolicy.Query.Pattern

/-! ## Repetitions -/

/-- How often an item is repeated, and whether as often as possible. -/
structure Repetition where
  least : Nat
  most : Option Nat
  greedy : Bool := true

/-- A count of repetitions with white space around it, and the number of characters it takes. -/
def count? (flags : Flags) (cs : List Char) : Option (Nat × Nat) :=
  let start := Text.spaceLength cs
  let (digits, n) := flags.span Char.isDigit cs.length (cs.drop start)
  let stop := start + n + Text.spaceLength (cs.drop (start + n))
  match natOfDigits? 10 digits with
  | some count => if count < Nat.pow 2 32 then some (count, stop) else none
  | none => none

/-- The end of the bounds of a repetition, after a comma: the greatest count, if there is one, and
the number of characters up to the closing brace. -/
def greatestCount? (flags : Flags) (least : Nat) (cs : List Char) : Option (Option Nat × Nat) :=
  let layout := flags.layoutLength cs
  if (cs.drop layout).head? = some '\x7d' then some (none, layout)
  else
    match count? flags (cs.drop layout) with
    | some (most, n) => if least ≤ most then some (some most, layout + n) else none
    | none => none

/-- The bounds of a repetition after the opening brace, and the number of characters up to the
closing one. -/
def bounds? (flags : Flags) (cs : List Char) : Option (Repetition × Nat) :=
  let layout := flags.layoutLength cs
  match count? flags (cs.drop layout) with
  | none => none
  | some (least, n) =>
    match cs.drop (layout + n) with
    | ',' :: rest =>
      (greatestCount? flags least rest).map fun (most, k) =>
        (⟨least, most, true⟩, layout + n + 1 + k)
    | _ => some (⟨least, some least, true⟩, layout + n)

/-- A repetition whose first mark is given, and the number of characters it takes beyond that. A
question mark at its end makes it lazy. -/
def repetition? (flags : Flags) (mark : Char) (cs : List Char) : Option (Repetition × Nat) :=
  let marked (r : Repetition) (n : Nat) : Repetition × Nat :=
    if (cs.drop n).head? = some '?' then ({ r with greedy := flags.swapGreed }, n + 1)
    else ({ r with greedy := !flags.swapGreed }, n)
  match mark with
  | '?' => some (marked ⟨0, some 1, true⟩ 0)
  | '*' => some (marked ⟨0, none, true⟩ 0)
  | '+' => some (marked ⟨1, none, true⟩ 0)
  | _ =>
    match bounds? flags cs with
    | none => none
    | some (r, n) =>
      match cs.drop n with
      | '\x7d' :: rest => some (marked r (n + 1 + flags.layoutLength rest))
      | _ => none

/-! ## Groups -/

/-- How a group begins. -/
inductive GroupOpening
  /-- A group whose match is remembered, perhaps under a name. -/
  | capture (name : Option (List Char))
  /-- A group with its own flags. -/
  | scope (marks : List Char)
  /-- Flags for what follows, and no group at all. -/
  | directive (marks : List Char)
  deriving DecidableEq

/-- Whether characters name a group. -/
def isGroupName : List Char → Bool
  | [] => false
  | c :: cs =>
    (c == '_' || Text.isAlphabetic c) &&
      cs.all fun c => ['_', '.', '[', ']'].contains c || Text.isAlphanumeric c

/-- A name and the angle bracket that closes it, with the number of characters they take. -/
def groupName? (cs : List Char) : Option (GroupOpening × Nat) :=
  let name := cs.takeWhile (· != '>')
  if isGroupName name && name.length < cs.length then
    some (.capture (some name), name.length + 1)
  else none

/-- Flags up to the colon or the parenthesis that ends them, with the number of characters they
take. -/
def groupFlags? (cs : List Char) : Option (GroupOpening × Nat) :=
  let marks := cs.takeWhile fun c => c != ':' && c != ')'
  if Flags.areMarks marks then
    match cs.drop marks.length with
    | ':' :: _ => some (.scope marks, marks.length + 1)
    | ')' :: _ => if marks.isEmpty then none else some (.directive marks, marks.length + 1)
    | _ => none
  else none

/-- The opening of a group after its parenthesis, and the number of characters it takes. -/
def groupOpening? (flags : Flags) (cs : List Char) : Option (GroupOpening × Nat) :=
  let layout := flags.layoutLength cs
  let after (n : Nat) : Option (GroupOpening × Nat) → Option (GroupOpening × Nat) :=
    Option.map fun (opening, k) => (opening, layout + n + k)
  match cs.drop layout with
  | '?' :: 'P' :: '<' :: rest => after 3 (groupName? rest)
  | '?' :: '<' :: rest => after 2 (groupName? rest)
  | '?' :: rest => after 1 (groupFlags? rest)
  | _ => some (.capture none, layout)

/-! ## Items -/

/-- A pattern as it was read: how deep its text nests, and whether it can be repeated. -/
structure Part where
  pattern : Pattern
  depth : Nat := 0
  repeatable : Bool := true

namespace Part

/-- The depth of parts, one level deeper than each of them. -/
def depthAbove (parts : List Part) : Nat := (parts.map Part.depth).foldl max 0 + 1

/-- Parts one after the other, the last one first in the list. -/
def sequence : List Part → Part
  | [] => ⟨.empty, 0, true⟩
  | [p] => p
  | parts => ⟨concat (parts.reverse.map Part.pattern), depthAbove parts, true⟩

/-- One of some parts, the last one first in the list. -/
def alternatives : List Part → Part
  | [p] => p
  | parts => ⟨alternation (parts.reverse.map Part.pattern), depthAbove parts, true⟩

end Part

/-- A character, in both cases if case is ignored. -/
def ofChar (flags : Flags) (c : Char) : Pattern := ofSet (flags.foldSet (.ofChar c))

/-- The characters that a dot stands for. -/
def dotSet (flags : Flags) : Text.CharSet :=
  if flags.dotAll then .all
  else if flags.crlf then (Text.CharSet.ofRanges [(0x0a, 0x0a), (0x0d, 0x0d)]).complement
  else (Text.CharSet.ofChar '\n').complement

/-- The pattern of an escape. Without Unicode, a byte beyond ASCII is no character. -/
def ofEscape? (flags : Flags) : Escape → Option Pattern
  | .character c asByte =>
    if asByte && !flags.unicode && 0x80 ≤ c.toNat then none else some (ofChar flags c)
  | .wordEdge edge => some (.assertion (.wordEdge edge flags.unicode))

/-- The part that a character begins, if it is no mark of a group, of alternatives or of a
repetition. With the number of characters it takes beyond the first. -/
def part? (flags : Flags) (c : Char) (cs : List Char) : Option (Part × Nat) :=
  match c with
  | '.' => if flags.unicode then some ({ pattern := ofSet (dotSet flags) }, 0) else none
  | '^' =>
    let a := if flags.multiLine then .lineStart flags.crlf else .textStart
    some ({ pattern := .assertion a }, 0)
  | '$' =>
    let a := if flags.multiLine then .lineEnd flags.crlf else .textEnd
    some ({ pattern := .assertion a }, 0)
  | '[' => (class? flags cs).map fun ((chars, depth), n) => ({ pattern := ofSet chars, depth }, n)
  | '\x5c' =>
    match escape? flags cs with
    | some (escape, n) => (ofEscape? flags escape).map ({ pattern := · }, n)
    | none => none
  | _ => some ({ pattern := ofChar flags c }, 0)

/-! ## Alternatives -/

/-- What has been read of a group: the flags in force, the number and the names of all groups opened
so far, the finished branches and the parts of the one in progress, each with the last one first. -/
structure Progress where
  flags : Flags := {}
  groups : Nat := 0
  names : List (List Char) := []
  branches : List Part := []
  parts : List Part := []

namespace Progress

/-- Adds a part to the branch in progress. -/
def add (s : Progress) (p : Part) : Progress := { s with parts := p :: s.parts }

/-- Ends the branch in progress. -/
def nextBranch (s : Progress) : Progress :=
  { s with branches := Part.sequence s.parts :: s.branches, parts := [] }

/-- All that has been read. -/
def whole (s : Progress) : Part := Part.alternatives s.nextBranch.branches

/-- Repeats the last part, if there is one that can be repeated. -/
def repeatLast? (s : Progress) (r : Repetition) : Option Progress :=
  match s.parts with
  | p :: parts =>
    if p.repeatable then
      let repeated := p.pattern.times r.least r.most r.greedy
      some { s with parts := ⟨repeated, p.depth + 1, true⟩ :: parts }
    else none
  | [] => none

/-- Sets flags for what follows. -/
def direct (s : Progress) (marks : List Char) : Progress :=
  { s with flags := s.flags.apply marks, parts := ⟨.empty, 0, false⟩ :: s.parts }

/-- The start of a group inside another one. No two groups have the same name. -/
def enter? (s : Progress) : GroupOpening → Option Progress
  | .capture none => some { flags := s.flags, groups := s.groups + 1, names := s.names }
  | .capture (some name) =>
    if s.names.contains name then none
    else some { flags := s.flags, groups := s.groups + 1, names := name :: s.names }
  | .scope marks | .directive marks =>
    some { flags := s.flags.apply marks, groups := s.groups, names := s.names }

/-- Adds a group that has been read to the end, in the state after its opening and its last one. -/
def leave (s : Progress) (opening : GroupOpening) (inner : Progress) : Progress :=
  let pattern :=
    match opening with
    | .capture _ => .capture (s.groups + 1) inner.whole.pattern
    | _ => inner.whole.pattern
  { s with
    groups := inner.groups, names := inner.names
    parts := ⟨pattern, inner.whole.depth + 1, true⟩ :: s.parts }

/-- Reads what a character begins, if it is no parenthesis. With the number of characters it takes
beyond the first. -/
def step? (s : Progress) (c : Char) (cs : List Char) : Option (Progress × Nat) :=
  if c == '|' then some (s.nextBranch, 0)
  else if ['?', '*', '+', '\x7b'].contains c then
    match repetition? s.flags c cs with
    | some (r, n) => (s.repeatLast? r).map (·, n)
    | none => none
  else (part? s.flags c cs).map fun (p, n) => (s.add p, n)

end Progress

/-- Reads alternatives up to the end of the text or an unmatched right parenthesis, and counts the
characters they take. -/
def read? (s : Progress) : List Char → Option (Progress × Nat)
  | [] => some (s, 0)
  | c :: cs =>
    let goOn (s : Progress) (taken : Nat) : Option (Progress × Nat) :=
      (read? s (cs.drop taken)).map fun (s, n) => (s, n + taken + 1)
    match s.flags.layoutLength (c :: cs) with
    | layout + 1 => goOn s layout
    | 0 =>
      if c == ')' then some (s, 0)
      else if c == '(' then
        match groupOpening? s.flags cs with
        | none => none
        | some (.directive marks, n) => goOn (s.direct marks) n
        | some (opening, n) =>
          match s.enter? opening with
          | none => none
          | some inner =>
            match read? inner (cs.drop n) with
            | none => none
            | some (inner, k) =>
              if cs.drop (n + k) = [] then none else goOn (s.leave opening inner) (n + k + 1)
      else
        match s.step? c cs with
        | some (s, n) => goOn s n
        | none => none
termination_by cs => cs.length
decreasing_by all_goals simp only [List.length_drop, List.length_cons]; omega

/-- How deep the text of a pattern may nest: groups, repetitions, alternatives, sequences, and
classes with their unions and operations. -/
def depthLimit : Nat := 250

/-- The pattern of a whole text. -/
def ofChars? (cs : List Char) : Option Pattern :=
  match read? {} cs with
  | some (s, n) =>
    let p := s.whole
    if n = cs.length && p.depth ≤ depthLimit && p.pattern.fits then some p.pattern else none
  | none => none

end QueryPolicy.Query.Pattern

import QueryPolicy.Query.Pattern.Escape

/-!
# Character classes between brackets

A class is a union of characters, ranges, named classes and classes in brackets of their own, or
such unions joined by operations from left to right. Reading a class counts how deep it nests.
-/

namespace QueryPolicy.Query.Pattern

open Text (CharSet)

/-- How two unions are joined. -/
inductive SetOperation
  | intersection
  | difference
  | symmetricDifference
  deriving DecidableEq

namespace SetOperation

/-- The operation that a mark, written twice, stands for. -/
def ofMark? : Char → Option SetOperation
  | '&' => some intersection
  | '-' => some difference
  | '~' => some symmetricDifference
  | _ => none

/-- The result of the operation. -/
def apply : SetOperation → CharSet → CharSet → CharSet
  | intersection, s, t => s.inter t
  | difference, s, t => s.diff t
  | symmetricDifference, s, t => s.symmDiff t

end SetOperation

/-- A set with the other case of its letters, where case is ignored. -/
def Flags.foldSet (flags : Flags) (s : CharSet) : CharSet :=
  if flags.ignoreCase then s.foldCase flags.unicode else s

/-- A set with the other case of its letters, or what it leaves out. Without Unicode, nothing can
be left out, since the rest is not ASCII. -/
def Flags.foldAndNegate? (flags : Flags) (negated : Bool) (s : CharSet) : Option CharSet :=
  if negated then if flags.unicode then some (flags.foldSet s).complement else none
  else some (flags.foldSet s)

/-! ## Named classes -/

/-- The ranges of the classes with a name. -/
def namedRanges : List (String × List (Nat × Nat)) :=
  [("alnum", [(0x30, 0x39), (0x41, 0x5a), (0x61, 0x7a)]), ("alpha", [(0x41, 0x5a), (0x61, 0x7a)]),
   ("ascii", [(0x00, 0x7f)]), ("blank", [(0x09, 0x09), (0x20, 0x20)]),
   ("cntrl", [(0x00, 0x1f), (0x7f, 0x7f)]), ("digit", [(0x30, 0x39)]), ("graph", [(0x21, 0x7e)]),
   ("lower", [(0x61, 0x7a)]), ("print", [(0x20, 0x7e)]),
   ("punct", [(0x21, 0x2f), (0x3a, 0x40), (0x5b, 0x60), (0x7b, 0x7e)]),
   ("space", [(0x09, 0x0d), (0x20, 0x20)]), ("upper", [(0x41, 0x5a)]),
   ("word", [(0x30, 0x39), (0x41, 0x5a), (0x5f, 0x5f), (0x61, 0x7a)]),
   ("xdigit", [(0x30, 0x39), (0x41, 0x46), (0x61, 0x66)])]

/-- A named class after its opening bracket, such as `:alpha:]` or `:^alpha:]`: whether it is
negated, its ranges, and the number of characters it takes. -/
def namedClass? : List Char → Option (Bool × List (Nat × Nat) × Nat)
  | ':' :: cs =>
    let negated := cs.head? = some '^'
    let start := if negated then 1 else 0
    let name := (cs.drop start).takeWhile (· != ':')
    if (cs.drop (start + name.length)).take 2 = [':', ']'] then
      (namedRanges.lookup (String.ofList name)).map (negated, ·, start + name.length + 3)
    else none
  | _ => none

/-! ## Characters and ranges -/

/-- A character of a class, and the number of characters that spell it. Without Unicode it is
ASCII. -/
def classChar? (flags : Flags) : List Char → Option (Char × Nat)
  | [] => none
  | c :: cs =>
    let found : Option (Char × Nat) :=
      if c == '\x5c' then
        match escape? flags cs with
        | some (.character e _, n) => some (e, n + 1)
        | _ => none
      else some (c, 1)
    found.filter fun (c, _) => flags.unicode || c.toNat < 0x80

/-- The character that decides whether a minus sign before it makes a range. In verbose mode white
space is skipped to find it, and the mark of a comment with the white space after it. -/
def Flags.next? (flags : Flags) (cs : List Char) : Option Char :=
  if flags.verbose then
    let found :=
      match cs.dropWhile Text.isSpace with
      | '#' :: rest => (rest.dropWhile Text.isSpace).head?
      | rest => rest.head?
    found.or cs.head?
  else cs.head?

/-- A character of a class or a range of them, and the number of characters that spell it. -/
def classRange? (flags : Flags) (cs : List Char) : Option (CharSet × Nat) :=
  match classChar? flags cs with
  | none => none
  | some (low, n) =>
    let dash := n + flags.layoutLength (cs.drop n)
    match cs.drop dash with
    | '-' :: rest =>
      let next := flags.next? rest
      if next = some ']' || next = some '-' then some (.ofChar low, n)
      else
        let layout := flags.layoutLength rest
        match classChar? flags (rest.drop layout) with
        | none => none
        | some (high, k) =>
          if low ≤ high then some (.ofRange low.toNat high.toNat, dash + 1 + layout + k) else none
    | _ => some (.ofChar low, n)

/-! ## Brackets -/

/-- What has been read of a class: whether it is negated, the operation that the union in progress
is the right side of, with its left side and how deep that nests, and of the union itself the
characters, the number of items, and how deep they nest. -/
structure ClassProgress where
  negated : Bool := false
  left : Option (SetOperation × CharSet × Nat) := none
  chars : CharSet := {}
  count : Nat := 0
  depth : Nat := 0

namespace ClassProgress

/-- Adds an item to the union in progress. -/
def add (s : ClassProgress) (chars : CharSet) (depth : Nat) : ClassProgress :=
  { s with chars := s.chars.union chars, count := s.count + 1, depth := max s.depth depth }

/-- What has been read as one set, and how deep it nests: several items nest one level deeper than
each, an operation one level deeper than its sides. -/
def joined (flags : Flags) (s : ClassProgress) : CharSet × Nat :=
  let depth := if 1 < s.count then s.depth + 1 else s.depth
  match s.left with
  | none => (s.chars, depth)
  | some (op, left, leftDepth) =>
    (op.apply (flags.foldSet left) (flags.foldSet s.chars), max leftDepth depth + 1)

/-- Makes what has been read the left side of an operation. -/
def operate (flags : Flags) (s : ClassProgress) (op : SetOperation) : ClassProgress :=
  let (left, depth) := s.joined flags
  { negated := s.negated, left := some (op, left, depth) }

/-- The class when its bracket closes, and how deep it nests. -/
def closed? (flags : Flags) (s : ClassProgress) : Option (CharSet × Nat) :=
  let (chars, depth) := s.joined flags
  (flags.foldAndNegate? s.negated chars).map (·, depth + 1)

end ClassProgress

/-- How a class begins after its bracket, and the number of characters that takes: a negation, then
minus signs that stand for themselves or, without any, a right bracket that does. -/
def classOpening (flags : Flags) (cs : List Char) : ClassProgress × Nat :=
  let start := flags.layoutLength cs
  let negated := (cs.drop start).head? = some '^'
  let start := if negated then start + 1 + flags.layoutLength (cs.drop (start + 1)) else start
  let (minuses, n) := flags.span (· == '-') cs.length (cs.drop start)
  let opened := minuses.foldl (fun s c => s.add (.ofChar c) 0) { negated }
  match minuses, cs.drop start with
  | [], ']' :: rest => (opened.add (.ofChar ']') 0, start + 1 + flags.layoutLength rest)
  | _, _ => (opened, start + n)

/-- The next item of a class that is no bracket: an operation, a character or a range. With the
number of characters it takes. -/
def classItem? (flags : Flags) (s : ClassProgress) (cs : List Char) :
    Option (ClassProgress × Nat) :=
  let operation :=
    match cs with
    | c :: d :: _ => if c = d then SetOperation.ofMark? c else none
    | _ => none
  match operation with
  | some op => some (s.operate flags op, 2)
  | none => (classRange? flags cs).map fun (chars, n) => (s.add chars 0, n)

/-- Reads a class up to the bracket that closes it: its characters, how deep it nests, and the
number of characters it takes. -/
def readClass? (flags : Flags) (s : ClassProgress) : List Char → Option ((CharSet × Nat) × Nat)
  | [] => none
  | c :: cs =>
    let goOn (s : ClassProgress) (taken : Nat) : Option ((CharSet × Nat) × Nat) :=
      (readClass? flags s (cs.drop taken)).map fun (read, n) => (read, n + taken + 1)
    match flags.layoutLength (c :: cs) with
    | layout + 1 => goOn s layout
    | 0 =>
      if c == ']' then (s.closed? flags).map (·, 1)
      else if c == '[' then
        match namedClass? cs with
        | some (negated, ranges, n) =>
          match flags.foldAndNegate? negated ⟨ranges⟩ with
          | some chars => goOn (s.add chars 0) n
          | none => none
        | none =>
          let (opened, n) := classOpening flags cs
          match readClass? flags opened (cs.drop n) with
          | some ((chars, depth), k) => goOn (s.add chars depth) (n + k)
          | none => none
      else
        match classItem? flags s (c :: cs) with
        | some (s, n) => goOn s (n - 1)
        | none => none
termination_by cs => cs.length
decreasing_by all_goals simp only [List.length_drop, List.length_cons]; omega

/-- A class after its opening bracket, with how deep it nests and the number of characters it
takes. -/
def class? (flags : Flags) (cs : List Char) : Option ((CharSet × Nat) × Nat) :=
  let (opened, n) := classOpening flags cs
  (readClass? flags opened (cs.drop n)).map fun (read, k) => (read, n + k)

end QueryPolicy.Query.Pattern

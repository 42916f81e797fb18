import QueryPolicy.Config.Escape
import QueryPolicy.Text.Rest

/-!
# Strings and keys of TOML

Four kinds of strings: with escapes or without, on one line or on several. Each function takes what
follows the opening marks and counts the characters up to and with the closing ones.
-/

namespace QueryPolicy.Config.Toml

/-- What was read, and the number of characters it took. -/
abbrev Reading (α : Type) := Option (α × Nat)

/-- Blanks inside a line. -/
def isBlank (c : Char) : Bool := c == ' ' || c == '\t'

/-- The number of blanks at the start of a text. -/
def blankLength (cs : List Char) : Nat := (cs.takeWhile isBlank).length

/-- The length of the line end at the start of a text; zero if there is none. -/
def newlineLength : List Char → Nat
  | '\n' :: _ => 1
  | '\r' :: '\n' :: _ => 2
  | _ => 0

/-- The number of blanks and line ends at the start of a text. -/
def spaceLength : List Char → Nat
  | '\n' :: cs => spaceLength cs + 1
  | '\r' :: '\n' :: cs => spaceLength cs + 2
  | c :: cs => if isBlank c then spaceLength cs + 1 else 0
  | [] => 0

/-- A string with escapes on one line. -/
def basicString? : List Char → Reading (List Char)
  | [] => none
  | '\x22' :: _ => some ([], 1)
  | ['\x5c'] => none
  | '\x5c' :: c :: cs =>
    match escaped? c cs with
    | none => none
    | some (e, n) => (basicString? (cs.drop n)).map fun (text, k) => (e :: text, k + n + 2)
  | c :: cs =>
    if isPlain c then (basicString? cs).map fun (text, k) => (c :: text, k + 1) else none
termination_by cs => cs.length
decreasing_by all_goals simp only [List.length_drop, List.length_cons]; omega

/-- A string without escapes on one line. -/
def literalString? : List Char → Reading (List Char)
  | [] => none
  | '\x27' :: _ => some ([], 1)
  | c :: cs =>
    if isPlain c then (literalString? cs).map fun (text, k) => (c :: text, k + 1) else none

/-- The marks that belong to a string before its three closing marks: as many of those after the
first three as there are, two at most. -/
def extraMarks (mark : Char) (cs : List Char) : List Char := (cs.take 2).takeWhile (· == mark)

/-- The length of a line break that a backslash hides, after the backslash: blanks, a line end, and
all blanks and line ends after it. -/
def hiddenBreakLength (cs : List Char) : Nat :=
  let blanks := blankLength cs
  let rest := cs.drop blanks
  if newlineLength rest = 0 then 0 else blanks + spaceLength rest

/-- A string with escapes on several lines. Line ends are single line feeds. -/
def multilineBasic? : List Char → Reading (List Char)
  | [] => none
  | '\x22' :: '\x22' :: '\x22' :: cs =>
    let extra := extraMarks '\x22' cs
    some (extra, extra.length + 3)
  | ['\x5c'] => none
  | '\x5c' :: c :: cs =>
    let hidden := hiddenBreakLength (c :: cs)
    if hidden = 0 then
      match escaped? c cs with
      | none => none
      | some (e, n) => (multilineBasic? (cs.drop n)).map fun (text, k) => (e :: text, k + n + 2)
    else (multilineBasic? (cs.drop (hidden - 1))).map fun (text, k) => (text, k + hidden + 1)
  | '\n' :: cs => (multilineBasic? cs).map fun (text, k) => ('\n' :: text, k + 1)
  | '\r' :: '\n' :: cs => (multilineBasic? cs).map fun (text, k) => ('\n' :: text, k + 2)
  | c :: cs =>
    if isPlain c then (multilineBasic? cs).map fun (text, k) => (c :: text, k + 1) else none
termination_by cs => cs.length
decreasing_by all_goals simp only [List.length_drop, List.length_cons]; omega

/-- A string without escapes on several lines. Line ends are single line feeds. -/
def multilineLiteral? : List Char → Reading (List Char)
  | [] => none
  | '\x27' :: '\x27' :: '\x27' :: cs =>
    let extra := extraMarks '\x27' cs
    some (extra, extra.length + 3)
  | '\n' :: cs => (multilineLiteral? cs).map fun (text, k) => ('\n' :: text, k + 1)
  | '\r' :: '\n' :: cs => (multilineLiteral? cs).map fun (text, k) => ('\n' :: text, k + 2)
  | c :: cs =>
    if isPlain c then (multilineLiteral? cs).map fun (text, k) => (c :: text, k + 1) else none

/-- The string at the start of a text. A line end right after three opening marks is dropped. -/
def string? (cs : List Char) : Reading String :=
  let finish (opening : Nat) (r : Reading (List Char)) : Reading String :=
    r.map fun (text, n) => (String.ofList text, n + opening)
  match cs with
  | '\x22' :: '\x22' :: '\x22' :: rest =>
    let first := newlineLength rest
    finish (3 + first) (multilineBasic? (rest.drop first))
  | '\x27' :: '\x27' :: '\x27' :: rest =>
    let first := newlineLength rest
    finish (3 + first) (multilineLiteral? (rest.drop first))
  | '\x22' :: rest => finish 1 (basicString? rest)
  | '\x27' :: rest => finish 1 (literalString? rest)
  | _ => none

/-! ## Keys -/

/-- Characters of a bare key. -/
def isKeyChar (c : Char) : Bool := c.isAlphanum || c == '_' || c == '-'

/-- One key: bare, or a string on one line. -/
def key? (cs : List Char) : Reading String :=
  match cs with
  | '\x22' :: rest => (basicString? rest).map fun (text, n) => (String.ofList text, n + 1)
  | '\x27' :: rest => (literalString? rest).map fun (text, n) => (String.ofList text, n + 1)
  | cs =>
    let name := cs.takeWhile isKeyChar
    if name.isEmpty then none else some (String.ofList name, name.length)

/-- Keys divided by points, with blanks around each. -/
def keyPath? (cs : List Char) : Reading (List String) :=
  let before := blankLength cs
  match key? (cs.drop before) with
  | none => none
  | some (key, n) =>
    let length := before + n + blankLength (cs.drop (before + n))
    match _ : cs.drop length with
    | '.' :: rest => (keyPath? rest).map fun (keys, k) => (key :: keys, k + length + 1)
    | _ => some ([key], length)
termination_by cs.length
decreasing_by all_goals grind [→ Text.length_lt_of_drop_eq_cons]

end QueryPolicy.Config.Toml

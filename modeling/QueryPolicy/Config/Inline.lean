import QueryPolicy.Config.Escape
import QueryPolicy.Config.Value
import QueryPolicy.Text.Bytes
import QueryPolicy.Text.Rest
import QueryPolicy.Text.Space

/-!
# Values of environment variables

A short notation for values: words, numbers, quoted texts, arrays and tables. A text that is none of
them as a whole is the text itself.
-/

namespace QueryPolicy.Config.Inline

/-- What was read, and the number of characters it took. -/
abbrev Reading (α : Type) := Option (α × Nat)

/-- Blanks around values. -/
def isBlank (c : Char) : Bool := c == ' ' || c == '\t' || c == '\n' || c == '\x0c' || c == '\r'

/-- The number of blanks at the start of a text. -/
def blankLength (cs : List Char) : Nat := (cs.takeWhile isBlank).length

/-- Characters that end a plain value. -/
def isSeparator (c : Char) : Bool := [',', '\x7b', '\x7d', '[', ']'].contains c

/-- The value of a plain text: a number with a point, an unsigned integer of 64 bits, a signed one,
or the text. -/
def plainValue (cs : List Char) : Value :=
  let float? := if cs.contains '.' then Binary64.ofText? cs else none
  let unsigned? := if cs.head? = some '-' then none else intOfDigits? 10 cs
  match float?, unsigned?, intOfDigits? 10 cs with
  | some x, _, _ => .float x
  | none, some n, _ =>
    if n < Int.pow 2 64 then .unsigned n.toNat else .string (String.ofList cs)
  | none, none, some n =>
    if -Int.pow 2 63 ≤ n then .signed n else .string (String.ofList cs)
  | none, none, none => .string (String.ofList cs)

/-- The characters between double quotation marks, after the opening one, with the closing one. -/
def quotedChars? : List Char → Reading (List Char)
  | [] => none
  | '\x22' :: _ => some ([], 1)
  | ['\x5c'] => none
  | '\x5c' :: c :: cs =>
    match escaped? c cs with
    | none => none
    | some (e, n) => (quotedChars? (cs.drop n)).map fun (text, k) => (e :: text, k + n + 2)
  | c :: cs =>
    if isPlain c then (quotedChars? cs).map fun (text, k) => (c :: text, k + 1) else none
termination_by cs => cs.length
decreasing_by all_goals simp only [List.length_drop, List.length_cons]; omega

/-- The text between double quotation marks, after the opening one, with the closing one. If it has
an escape, what stands before the first one keeps as many bytes as it has characters. -/
def quoted? (cs : List Char) : Reading String :=
  let start := cs.takeWhile fun c => c != '\x5c' && c != '\x22'
  let hasEscape := (cs.drop start.length).head? = some '\x5c'
  (quotedChars? cs).map fun (text, n) =>
    let kept := if hasEscape then Text.takeBytes start.length start else start
    (String.ofList (kept ++ text.drop start.length), n)

/-- Characters of an unquoted key. -/
def isKeyChar (c : Char) : Bool := c.isAlphanum || c == '_' || c == '-'

/-- The key of an entry. -/
def key? : List Char → Reading String
  | '\x22' :: cs => (quoted? cs).map fun (text, n) => (text, n + 1)
  | cs =>
    let name := cs.takeWhile isKeyChar
    if name.isEmpty then none else some (String.ofList name, name.length)

/-- The key of an entry with blanks around it and the equals sign after it. -/
def keyAndEquals? (cs : List Char) : Reading String :=
  let before := blankLength cs
  match key? (cs.drop before) with
  | none => none
  | some (key, n) =>
    let after := before + n + blankLength (cs.drop (before + n))
    if (cs.drop after).head? = some '=' then some (key, after + 1) else none

/-- Puts an entry before others; one of them with the same key wins. -/
def putFirst (key : String) (v : Value) (entries : Dict) : Dict :=
  if (entries.lookup key).isSome then entries else (key, v) :: entries

/-- The length of a plain value. -/
def plainLength (cs : List Char) : Nat := (cs.takeWhile fun c => !isSeparator c).length

mutual

/-- A value without the blanks around it. -/
def bare? (cs : List Char) : Reading Value :=
  if cs.take 4 = "true".toList then some (.bool true, 4)
  else if cs.take 5 = "false".toList then some (.bool false, 5)
  else
    match cs with
    | '\x7b' :: rest => (entries? rest).map fun (es, n) => (.dict es, n + 1)
    | '[' :: rest => (items? rest).map fun (vs, n) => (.array vs, n + 1)
    | '\x22' :: rest => (quoted? rest).map fun (text, n) => (.string text, n + 1)
    | '\x27' :: c :: '\x27' :: _ => some (.character c, 3)
    | '\x27' :: _ => none
    | cs => some (plainValue (Text.trim (cs.take (plainLength cs))), plainLength cs)
termination_by 6 * cs.length
decreasing_by all_goals grind [→ Text.length_lt_of_drop_eq_cons]

/-- A value with blanks around it. -/
def value? (cs : List Char) : Reading Value :=
  let before := blankLength cs
  (bare? (cs.drop before)).map fun (v, n) =>
    (v, before + n + blankLength (cs.drop (before + n)))
termination_by 6 * cs.length + 1
decreasing_by grind

/-- The items of an array, after its bracket or a comma, with the closing bracket. -/
def items? (cs : List Char) : Reading (List Value) :=
  match cs with
  | ']' :: _ => some ([], 1)
  | cs =>
    match value? cs with
    | none => none
    | some (v, n) =>
      match _ : cs.drop n with
      | ',' :: rest => (items? rest).map fun (vs, k) => (v :: vs, k + n + 1)
      | ']' :: _ => some ([v], n + 1)
      | _ => none
termination_by 6 * cs.length + 2
decreasing_by all_goals grind [→ Text.length_lt_of_drop_eq_cons]

/-- The entries of a table, after its brace or a comma, with the closing brace. -/
def entries? (cs : List Char) : Reading Dict :=
  match cs with
  | '\x7d' :: _ => some ([], 1)
  | cs =>
    match keyAndEquals? cs with
    | none => none
    | some (key, n) =>
      match value? (cs.drop n) with
      | none => none
      | some (v, k) =>
        match _ : cs.drop (n + k) with
        | ',' :: rest =>
          (entries? rest).map fun (es, j) => (putFirst key v es, j + n + k + 1)
        | '\x7d' :: _ => some ([(key, v)], n + k + 1)
        | _ => none
termination_by 6 * cs.length + 2
decreasing_by all_goals grind [→ Text.length_lt_of_drop_eq_cons]

end

/-- The value of a variable: what its whole text denotes, or the text itself. -/
def ofText (text : String) : Value :=
  let cs := text.toList
  match value? cs with
  | some (v, n) => if n = cs.length then v else .string text
  | none => .string text

end QueryPolicy.Config.Inline

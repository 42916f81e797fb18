import QueryPolicy.Number.Decimal
import QueryPolicy.Query.Pattern
import QueryPolicy.Query.Pattern.Flags

/-!
# Escapes in regular expressions

Only escapes that a string of a query can hold are read; a backslash before any other letter or
digit is an error.
-/

namespace QueryPolicy.Query.Pattern

/-- What an escape stands for. -/
inductive Escape
  /-- A character; `asByte` says whether it is spelt by the two digits of one byte. -/
  | character (c : Char) (asByte : Bool)
  /-- The edge of a word. -/
  | wordEdge (edge : WordEdge)
  deriving DecidableEq

/-- The character of hexadecimal digits. -/
def characterOfDigits? (digits : List Char) : Option Char :=
  (natOfDigits? 16 digits).bind fun n => if n.isValidChar then some (Char.ofNat n) else none

/-- A character in hexadecimal, after the letter that announces it: so many digits, or any number of
them between braces. With the number of characters taken. -/
def hexEscape? (flags : Flags) (count : Nat) (cs : List Char) : Option (Escape × Nat) :=
  let layout := flags.layoutLength cs
  match cs.drop layout with
  | '\x7b' :: rest =>
    let inner := flags.layoutLength rest
    let (digits, n) := flags.span (isDigitOf 16) rest.length (rest.drop inner)
    if (rest.drop (inner + n)).head? = some '\x7d' then
      (characterOfDigits? digits).map (.character · false, layout + inner + n + 2)
    else none
  | rest =>
    let (digits, n) := flags.span (isDigitOf 16) count rest
    if digits.length = count then
      (characterOfDigits? digits).map (.character · (count = 2), layout + n)
    else none

/-- The edge of a word that a name between braces stands for. -/
def wordEdge? (name : String) : Option WordEdge :=
  [("start", .start), ("end", .end_), ("start-half", .startHalf),
    ("end-half", .endHalf)].lookup name

/-- The edge of a word, after its letter. Braces that do not begin with a name belong to a
repetition. -/
def wordEdgeEscape? (flags : Flags) (cs : List Char) : Option (Escape × Nat) :=
  match cs with
  | '\x7b' :: rest =>
    let layout := flags.layoutLength rest
    let (name, n) := flags.span (fun c => c.isAlpha || c == '-') rest.length (rest.drop layout)
    if name.isEmpty then some (.wordEdge .either, 0)
    else if (rest.drop (layout + n)).head? = some '\x7d' then
      (wordEdge? (String.ofList name)).map (.wordEdge ·, layout + n + 2)
    else none
  | _ => some (.wordEdge .either, 0)

/-- Whether a character may be escaped for itself: ASCII characters other than letters, digits and
angle brackets. -/
def isEscapable (c : Char) : Bool := c.toNat < 0x80 && !c.isAlphanum && c != '<' && c != '>'

/-- The escape after a backslash, and how many characters it takes. -/
def escape? (flags : Flags) : List Char → Option (Escape × Nat)
  | [] => none
  | c :: cs =>
    let afterLetter : Option (Escape × Nat) → Option (Escape × Nat) :=
      Option.map fun (escape, n) => (escape, n + 1)
    match c with
    | 'x' => afterLetter (hexEscape? flags 2 cs)
    | 'u' => afterLetter (hexEscape? flags 4 cs)
    | 'U' => afterLetter (hexEscape? flags 8 cs)
    | 'b' => afterLetter (wordEdgeEscape? flags cs)
    | 'a' => some (.character '\x07' false, 1)
    | 't' => some (.character '\t' false, 1)
    | 'n' => some (.character '\n' false, 1)
    | 'v' => some (.character '\x0b' false, 1)
    | 'f' => some (.character '\x0c' false, 1)
    | 'r' => some (.character '\r' false, 1)
    | _ => if isEscapable c then some (.character c false, 1) else none

end QueryPolicy.Query.Pattern

import QueryPolicy.Text.Space

/-!
# Flags of regular expressions

Flags change how what follows them is read. In the verbose mode that one of them turns on, white
space and comments are layout and stand for nothing.
-/

namespace QueryPolicy.Query.Pattern

/-- The flags in force at a place. -/
structure Flags where
  /-- Letters stand for both cases. -/
  ignoreCase : Bool := false
  /-- Anchors hold at every line. -/
  multiLine : Bool := false
  /-- A dot stands for line ends, too. -/
  dotAll : Bool := false
  /-- Repetitions are lazy unless marked. -/
  swapGreed : Bool := false
  /-- Characters are those of Unicode, not only of ASCII. -/
  unicode : Bool := true
  /-- A line may end with a carriage return. -/
  crlf : Bool := false
  /-- White space and comments are layout. -/
  verbose : Bool := false
  deriving DecidableEq

namespace Flags

/-- The letters of the flags, and the mark before those to turn off. -/
def marks : List Char := ['i', 'm', 's', 'U', 'u', 'R', 'x', '-']

/-- Turns the flag of a letter on or off. -/
def set (value : Bool) (flags : Flags) : (letter : Char) → Flags
  | 'i' => { flags with ignoreCase := value }
  | 'm' => { flags with multiLine := value }
  | 's' => { flags with dotAll := value }
  | 'U' => { flags with swapGreed := value }
  | 'u' => { flags with unicode := value }
  | 'R' => { flags with crlf := value }
  | 'x' => { flags with verbose := value }
  | _ => flags

/-- Whether letters may set flags: each at most once, with at most one minus sign that is not the
last. -/
def areMarks (cs : List Char) : Bool :=
  cs.all marks.contains && decide cs.Nodup && cs.getLast? != some '-'

/-- The flags after the letters before a minus sign are turned on and those after it off. -/
def apply (flags : Flags) (cs : List Char) : Flags :=
  let on := (cs.takeWhile (· != '-')).foldl (set true) flags
  (cs.dropWhile (· != '-')).foldl (set false) on

end Flags

/-! ## Layout -/

/-- The length of white space and comments at the start of a text; `comment` says whether it starts
inside a comment, which lasts to the end of its line. -/
def blankLength : (comment : Bool) → List Char → Nat
  | _, [] => 0
  | true, c :: cs => blankLength (c != '\n') cs + 1
  | false, c :: cs =>
    if Text.isSpace c then blankLength false cs + 1
    else if c == '#' then blankLength true cs + 1 else 0

/-- The length of the layout at the start of a text, where there is such a thing. -/
def Flags.layoutLength (flags : Flags) (cs : List Char) : Nat :=
  if flags.verbose then blankLength false cs else 0

/-- The characters of a class at the start of a text, at most `most` of them and with the layout
after each left out, and the length of all that. -/
def Flags.span (flags : Flags) (inClass : Char → Bool) : (most : Nat) → List Char → List Char × Nat
  | 0, _ => ([], 0)
  | _, [] => ([], 0)
  | most + 1, c :: cs =>
    if inClass c then
      let layout := flags.layoutLength cs
      let (others, n) := flags.span inClass most (cs.drop layout)
      (c :: others, n + layout + 1)
    else ([], 0)

end QueryPolicy.Query.Pattern

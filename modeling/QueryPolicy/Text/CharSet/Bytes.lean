import QueryPolicy.Text.CharSet

/-!
# Bytes of the characters of a set

The UTF-8 encodings of a set are the products of ranges of bytes, one product after the other.
-/

namespace QueryPolicy.Text

/-- An inclusive range of bytes. -/
abbrev ByteRange := Nat × Nat

/-- What marks a byte that continues a character. -/
def continuation : Nat := 0x80

/-- The numbers from `low` to `high` as products of ranges of digits to the base 64, the leading
digit with a mark added and those after it, `rest` of them, marked as continuations. -/
def digitRanges (mark : Nat) : (rest low high : Nat) → List (List ByteRange)
  | 0, low, high => [[(mark + low, mark + high)]]
  | rest + 1, low, high =>
    let unit := Nat.pow 64 (rest + 1)
    let (first, last) := (low / unit, high / unit)
    let under (digit low high : Nat) : List (List ByteRange) :=
      (digitRanges continuation rest low high).map ((mark + digit, mark + digit) :: ·)
    if first = last then under first (low % unit) (high % unit)
    else
      let start := if low % unit = 0 then [] else under first (low % unit) (unit - 1)
      let stop := if high % unit = unit - 1 then [] else under last 0 (high % unit)
      let next := if low % unit = 0 then first else first + 1
      let previous := if high % unit = unit - 1 then last else last - 1
      let middle :=
        if next ≤ previous then
          [(mark + next, mark + previous) ::
            List.replicate (rest + 1) (continuation, continuation + 63)]
        else []
      start ++ middle ++ stop

/-- The code points encoded with so many bytes after the first: the least and the greatest one, the
mark of the first byte, and the number. -/
def encodingLengths : List (Nat × Nat × Nat × Nat) :=
  [(0, 0x7f, 0, 0), (0x80, 0x7ff, 0xc0, 1), (0x800, 0xffff, 0xe0, 2), (0x10000, 0x10ffff, 0xf0, 3)]

/-- The encodings of a range of characters. -/
def encodings (low high : Nat) : List (List ByteRange) :=
  encodingLengths.flatMap fun (least, most, mark, rest) =>
    if max low least ≤ min high most then digitRanges mark rest (max low least) (min high most)
    else []

/-- The encodings of a set. -/
def CharSet.encodings (s : CharSet) : List (List ByteRange) :=
  s.ranges.flatMap fun r => Text.encodings r.1 r.2

/-- The bytes of a text. -/
def bytes (cs : List Char) : List UInt8 := cs.flatMap String.utf8EncodeChar

end QueryPolicy.Text

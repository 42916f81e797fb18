import QueryPolicy.Number.Decimal

/-!
# Escapes in quoted values
-/

namespace QueryPolicy.Config

/-- A character given by so many hexadecimal digits. -/
def hexCharacter? (digits : Nat) (cs : List Char) : Option Char :=
  if digits ≤ cs.length then
    (natOfDigits? 16 (cs.take digits)).bind fun n =>
      if n.isValidChar then some (Char.ofNat n) else none
  else none

/-- The character that an escape stands for, after its backslash, and how many characters it takes
beyond the first. -/
def escaped? (c : Char) (cs : List Char) : Option (Char × Nat) :=
  match c with
  | 'b' => some ('\x08', 0)
  | 't' => some ('\t', 0)
  | 'n' => some ('\n', 0)
  | 'f' => some ('\x0c', 0)
  | 'r' => some ('\r', 0)
  | '\x22' => some ('\x22', 0)
  | '\x5c' => some ('\x5c', 0)
  | 'u' => (hexCharacter? 4 cs).map (·, 4)
  | 'U' => (hexCharacter? 8 cs).map (·, 8)
  | _ => none

/-- Characters that may stand for themselves in a quoted value: all but controls. -/
def isPlain (c : Char) : Bool := c == '\t' || (0x20 ≤ c.toNat && c.toNat != 0x7f)

end QueryPolicy.Config

import QueryPolicy.Text.Printable

/-!
# Quoted text

A text between two equal marks. Six characters have a short escape, characters of a chosen class
are spelled as hexadecimal code points, every other character stands for itself.
-/

namespace QueryPolicy.Text

/-- Lower-case hexadecimal digits of a code point, without leading zeros. -/
def hexDigits (c : Char) : List Char :=
  Nat.toDigits 16 c.toNat

/-- The code point escape: the digits between braces after a backslash and `u`. -/
def codePointEscape (c : Char) : List Char :=
  ['\x5c', 'u', '\x7b'] ++ hexDigits c ++ ['\x7d']

/-- How one character is written between two marks `mark`, when the class `obscure` is spelled by
code points. -/
def escapeChar (obscure : Char → Bool) (mark c : Char) : List Char :=
  if c = '\x00' then ['\x5c', '0']
  else if c = '\t' then ['\x5c', 't']
  else if c = '\r' then ['\x5c', 'r']
  else if c = '\n' then ['\x5c', 'n']
  else if c = '\x5c' then ['\x5c', '\x5c']
  else if c = mark then ['\x5c', mark]
  else if obscure c then codePointEscape c
  else [c]

/-- The characters of a text between two marks. -/
def escapeChars (obscure : Char → Bool) (mark : Char) (cs : List Char) : List Char :=
  cs.flatMap (escapeChar obscure mark)

/-- A text between two marks, as characters. -/
def quoteChars (obscure : Char → Bool) (mark : Char) (cs : List Char) : List Char :=
  mark :: (escapeChars obscure mark cs ++ [mark])

/-- A text between double quotation marks, when the class `obscure` is spelled by code points. -/
def quoteBy (obscure : Char → Bool) (s : String) : String :=
  String.ofList (quoteChars obscure '\x22' s.toList)

/-- A text between double quotation marks. -/
def quote (s : String) : String := quoteBy isObscure s

/-- A character between single quotation marks. -/
def quoteChar (c : Char) : String :=
  String.ofList (quoteChars isObscure '\x27' [c])

/-- Texts separated by a comma and a space. -/
def commaSeparated (parts : List String) : String :=
  String.intercalate ", " parts

end QueryPolicy.Text

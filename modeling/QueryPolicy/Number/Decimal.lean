import QueryPolicy.Number.Binary64

/-!
# Decimal text of numbers

Reading: a decimal numeral is rounded once, from its exact value. Writing: the fewest digits that
read back, in positional notation.
-/

namespace QueryPolicy

/-- The value of a digit; letters count on from ten. -/
def digitValue? (c : Char) : Option Nat :=
  if '0' ≤ c && c ≤ '9' then some (c.toNat - 48)
  else if 'a' ≤ c && c ≤ 'z' then some (c.toNat - 87)
  else if 'A' ≤ c && c ≤ 'Z' then some (c.toNat - 55)
  else none

/-- Whether a character is a digit of a base. -/
def isDigitOf (base : Nat) (c : Char) : Bool :=
  match digitValue? c with
  | some d => d < base
  | none => false

/-- The natural written by a non-empty list of digits of a base. -/
def natOfDigits? (base : Nat) (cs : List Char) : Option Nat :=
  if !cs.isEmpty && cs.all (isDigitOf base) then
    some (cs.foldl (fun n c => n * base + (digitValue? c).getD 0) 0)
  else none

/-- Splits off an optional sign; the flag says whether it was a minus. -/
def splitSign : List Char → Bool × List Char
  | '-' :: cs => (true, cs)
  | '+' :: cs => (false, cs)
  | cs => (false, cs)

/-- The integer written by an optional sign and digits of a base. -/
def intOfDigits? (base : Nat) (cs : List Char) : Option Int :=
  let (negative, digits) := splitSign cs
  (natOfDigits? base digits).map fun n => if negative then -(n : Int) else n

namespace Binary64

/-- The number nearest to `digits * 10 ^ exponent`. Powers of ten that lie far outside the range of
the format are not computed. -/
def ofScientific (negative : Bool) (digits : Nat) (exponent : Int) : Binary64 :=
  let size : Int := exponent + (Nat.toDigits 10 digits).length
  if digits = 0 || size < -330 then ofMagnitude negative 0
  else if 330 < size then ofMagnitude negative infiniteMagnitude
  else ofQuotient negative (digits * Nat.pow 10 exponent.toNat) (Nat.pow 10 (-exponent).toNat)

/-- The exponent part of a numeral: nothing, or `e` and a signed integer. -/
def exponentOfText? : List Char → Option Int
  | [] => some 0
  | c :: cs => if c = 'e' || c = 'E' then intOfDigits? 10 cs else none

/-- An unsigned decimal numeral: digits with an optional point and an optional exponent, at least
one digit before the exponent. -/
def ofNumeral? (negative : Bool) (cs : List Char) : Option Binary64 :=
  let whole := cs.takeWhile Char.isDigit
  let rest := cs.dropWhile Char.isDigit
  let (fraction, rest) :=
    match rest with
    | '.' :: r => (r.takeWhile Char.isDigit, r.dropWhile Char.isDigit)
    | r => ([], r)
  match natOfDigits? 10 (whole ++ fraction), exponentOfText? rest with
  | some digits, some e => some (ofScientific negative digits (e - fraction.length))
  | _, _ => none

/-- A decimal text: an optional sign, then a numeral or, in any case of letters, `inf`, `infinity`
or `nan`. -/
def ofText? (cs : List Char) : Option Binary64 :=
  let (negative, body) := splitSign cs
  let word := String.ofList (body.map Char.toLower)
  if word = "inf" || word = "infinity" then some (ofMagnitude negative infiniteMagnitude)
  else if word = "nan" then some (ofMagnitude negative (infiniteMagnitude + Nat.pow 2 51))
  else ofNumeral? negative body

/-! ## Shortest text -/

/-- A positive quotient lies in `[10 ^ (e - 1), 10 ^ e)` for this `e`. -/
def decimalExponent (num den : Nat) : Int :=
  let k : Int := ((Nat.toDigits 10 num).length : Int) - (Nat.toDigits 10 den).length
  if den * Nat.pow 10 k.toNat ≤ num * Nat.pow 10 (-k).toNat then k + 1 else k

/-- The reals that round to a positive finite number, in quarters of its unit: the ends lie half a
unit away, a quarter below when the number is the least of its binade, and belong to the interval
iff the significand is even. -/
structure RoundingInterval where
  low : Nat
  high : Nat
  closed : Bool

/-- The interval of reals that round to a positive finite number. -/
def roundingInterval (x : Binary64) : RoundingInterval where
  low := 4 * x.significand - if x.significand = Nat.pow 2 52 && 1 < x.exponentField then 1 else 2
  high := 4 * x.significand + 2
  closed := x.significand % 2 = 0

/-- Whether `digits * 10 ^ power` rounds to a positive finite number. -/
def readsBack (x : Binary64) (digits : Nat) (power : Int) : Bool :=
  let interval := x.roundingInterval
  let unit := x.scale - 2
  -- Both sides in units of 2 ^ unit, cleared of denominators.
  let point := digits * Nat.pow 10 power.toNat * Nat.pow 2 (-unit).toNat
  let factor := Nat.pow 10 (-power).toNat * Nat.pow 2 unit.toNat
  if interval.closed then interval.low * factor ≤ point && point ≤ interval.high * factor
  else interval.low * factor < point && point < interval.high * factor

/-- The neighbour of a positive finite number on the grid of `count` digits that reads back, the
nearer one if both do. -/
def gridPoint? (x : Binary64) (count : Nat) : Option (Nat × Int) :=
  let power : Int := decimalExponent x.numerator x.denominator - count
  let num := x.numerator * Nat.pow 10 (-power).toNat
  let den := x.denominator * Nat.pow 10 power.toNat
  let below := num / den
  let nearBelow : Bool := 2 * (num % den) < den
  match readsBack x below power, readsBack x (below + 1) power with
  | true, true => some (if nearBelow then below else below + 1, power)
  | true, false => some (below, power)
  | false, true => some (below + 1, power)
  | false, false => none

/-- The fewest digits that read back as a positive finite number, and the power of ten that they
count; seventeen always suffice. -/
def shortest (x : Binary64) : Nat × Int :=
  ((List.range 17).findSome? fun n => gridPoint? x (n + 1)).getD (x.numerator / x.denominator, 0)

/-- Digits times a power of ten in positional notation, without trailing zeros after the point. -/
def positional (digits : Nat) (power : Int) : String :=
  let all := Nat.toDigits 10 digits
  let kept := (all.reverse.dropWhile (· = '0')).reverse
  let power := power + (all.length - kept.length : Nat)
  if 0 ≤ power then String.ofList (kept ++ List.replicate power.toNat '0')
  else
    let places := (-power).toNat
    let padded := List.replicate (places + 1 - kept.length) '0' ++ kept
    let whole := padded.length - places
    String.ofList (padded.take whole ++ '.' :: padded.drop whole)

/-- The shortest positional text: `1` for one, `-0` for negative zero, `NaN`, `inf`, `-inf`. -/
def toText (x : Binary64) : String :=
  if x.isNaN then "NaN"
  else
    let sign := if x.isNegative then "-" else ""
    if x.isInfinite then sign ++ "inf"
    else if x.isZero then sign ++ "0"
    else
      let (digits, power) := x.shortest
      sign ++ positional digits power

end Binary64

end QueryPolicy

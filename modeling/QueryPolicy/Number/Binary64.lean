/-!
# Binary floating point numbers of 64 bits

A number is its bit pattern. Values are exact: a finite number is `significand * 2 ^ scale`, and a
quotient of naturals is taken to the nearest number, a tie to the even one.
-/

namespace QueryPolicy

/-- A 64 bit floating point number, given by its bit pattern. -/
structure Binary64 where
  bits : UInt64
  deriving DecidableEq, Inhabited

namespace Binary64

/-- The magnitude of infinity: all exponent bits set and no fraction bit. -/
def infiniteMagnitude : Nat := 2047 * Nat.pow 2 52

/-- The greatest magnitude of a finite number. -/
def greatestMagnitude : Nat := infiniteMagnitude - 1

/-- The number with a magnitude, the bits below the sign bit, and a sign. -/
def ofMagnitude (negative : Bool) (magnitude : Nat) : Binary64 :=
  ⟨UInt64.ofNat (magnitude + if negative then Nat.pow 2 63 else 0)⟩

/-- Positive infinity. -/
def infinity : Binary64 := ofMagnitude false infiniteMagnitude

/-- The quiet not-a-number. -/
def nan : Binary64 := ofMagnitude false (infiniteMagnitude + Nat.pow 2 51)

/-- The bits below the sign bit; they order the magnitudes. -/
def magnitude (x : Binary64) : Nat := x.bits.toNat % Nat.pow 2 63

/-- Whether the sign bit is set. -/
def isNegative (x : Binary64) : Bool := Nat.pow 2 63 ≤ x.bits.toNat

/-- Whether the pattern is a not-a-number. -/
def isNaN (x : Binary64) : Bool := infiniteMagnitude < x.magnitude

/-- Whether the pattern is one of the two infinities. -/
def isInfinite (x : Binary64) : Bool := x.magnitude = infiniteMagnitude

/-- Whether the pattern is one of the two zeros. -/
def isZero (x : Binary64) : Bool := x.magnitude = 0

/-- Whether the pattern denotes a real number. -/
def isFinite (x : Binary64) : Bool := x.magnitude < infiniteMagnitude

/-- Equality of floating point values: a not-a-number equals nothing, the two zeros are equal. -/
def valueEq (x y : Binary64) : Bool :=
  !x.isNaN && !y.isNaN && (x == y || (x.isZero && y.isZero))

/-- The number with the opposite sign bit. -/
def neg (x : Binary64) : Binary64 := ofMagnitude (!x.isNegative) x.magnitude

instance : Neg Binary64 := ⟨neg⟩

/-- Whether the number is zero or below. -/
def isNonPositive (x : Binary64) : Bool := !x.isNaN && (x.isZero || x.isNegative)

/-! ## Exact value -/

/-- The biased exponent field. -/
def exponentField (x : Binary64) : Nat := x.magnitude / Nat.pow 2 52

/-- The integer significand, with the leading bit that normal numbers imply. -/
def significand (x : Binary64) : Nat :=
  x.magnitude % Nat.pow 2 52 + if x.exponentField = 0 then 0 else Nat.pow 2 52

/-- The power of two that the significand counts. -/
def scale (x : Binary64) : Int := (max x.exponentField 1 : Nat) - 1075

/-- Numerator of the exact absolute value of a finite number. -/
def numerator (x : Binary64) : Nat := x.significand * Nat.pow 2 x.scale.toNat

/-- Denominator of the exact absolute value of a finite number. -/
def denominator (x : Binary64) : Nat := Nat.pow 2 (-x.scale).toNat

/-! ## Rounding -/

/-- The natural nearest to a quotient, a half going to the even neighbour. -/
def roundQuotient (num den : Nat) : Nat :=
  let q := num / den
  let twice := 2 * (num % den)
  if den < twice || (twice = den && q % 2 = 1) then q + 1 else q

/-- The exponent of the greatest power of two not above a positive quotient. -/
def floorLog2 (num den : Nat) : Int :=
  let k : Int := (num.log2 : Int) - den.log2
  if den * Nat.pow 2 k.toNat ≤ num * Nat.pow 2 (-k).toNat then k else k - 1

/-- The magnitude of the number nearest to a quotient of naturals. -/
def magnitudeOfQuotient (num den : Nat) : Nat :=
  if num = 0 then 0
  else
    let unit : Int := max (floorLog2 num den - 52) (-1074)
    let m := roundQuotient (num * Nat.pow 2 (-unit).toNat) (den * Nat.pow 2 unit.toNat)
    min ((unit + 1074).toNat * Nat.pow 2 52 + m) infiniteMagnitude

/-- The number nearest to a quotient of naturals, with a sign. -/
def ofQuotient (negative : Bool) (num den : Nat) : Binary64 :=
  ofMagnitude negative (magnitudeOfQuotient num den)

/-- The number nearest to a natural. -/
def ofNat (n : Nat) : Binary64 := ofQuotient false n 1

/-- The number nearest to an integer. -/
def ofInt (n : Int) : Binary64 := ofQuotient (n < 0) n.natAbs 1

/-- The rounded sum of two finite numbers that are not negative. -/
def addMagnitudes (x y : Binary64) : Binary64 :=
  ofQuotient false (x.numerator * y.denominator + y.numerator * x.denominator)
    (x.denominator * y.denominator)

/-- The rounded quotient of two finite numbers that are not negative. -/
def divMagnitudes (x y : Binary64) : Binary64 :=
  ofQuotient false (x.numerator * y.denominator) (x.denominator * y.numerator)

end Binary64

end QueryPolicy

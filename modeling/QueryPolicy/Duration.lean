import QueryPolicy.Number.Decimal

/-!
# Durations

A span of time in whole nanoseconds, read from a text of units or from a number of seconds.
-/

namespace QueryPolicy

/-- A span of time, counted in nanoseconds. -/
structure Duration where
  nanoseconds : Nat
  deriving DecidableEq, Inhabited

namespace Duration

/-- Whole seconds of a duration. -/
def seconds (d : Duration) : Nat := d.nanoseconds / Nat.pow 10 9

/-- Nanoseconds beyond the whole seconds. -/
def subsecond (d : Duration) : Nat := d.nanoseconds % Nat.pow 10 9

/-- The units of a written duration, longest first. -/
inductive TimeUnit
  | year | week | day | hour | minute | second | millisecond
  deriving DecidableEq

/-- Milliseconds in one unit; a year has 365 days. -/
def TimeUnit.milliseconds : TimeUnit → Nat
  | .year => 365 * 24 * 60 * 60 * 1000
  | .week => 7 * 24 * 60 * 60 * 1000
  | .day => 24 * 60 * 60 * 1000
  | .hour => 60 * 60 * 1000
  | .minute => 60 * 1000
  | .second => 1000
  | .millisecond => 1

/-- The unit written with one letter. -/
def TimeUnit.ofLetter? : Char → Option TimeUnit
  | 'y' => some .year
  | 'w' => some .week
  | 'd' => some .day
  | 'h' => some .hour
  | 'm' => some .minute
  | 's' => some .second
  | _ => none

/-- The components of a written duration, each a count and a unit, after the digits of `pending`
have been read. Two letters `ms` after a count are milliseconds. -/
def components? : (pending : Option Nat) → List Char → Option (List (Nat × TimeUnit))
  | none, [] => some []
  | none, c :: cs => if c.isDigit then components? (digitValue? c) cs else none
  | some _, [] => none
  | some n, 'm' :: 's' :: cs => (components? none cs).map ((n, .millisecond) :: ·)
  | some n, c :: cs =>
    if c.isDigit then components? (some (n * 10 + (digitValue? c).getD 0)) cs
    else (TimeUnit.ofLetter? c).bind fun u => (components? none cs).map ((n, u) :: ·)

/-- A component counts nothing if its count exceeds 32 bits. -/
def componentMilliseconds (c : Nat × TimeUnit) : Nat :=
  if c.1 < Nat.pow 2 32 then c.1 * c.2.milliseconds else 0

/-- The duration that a text of components denotes, each unit at most once and longer units
first. -/
def ofText? (cs : List Char) : Option Duration :=
  match components? none cs with
  | some parts =>
    if (parts.map (·.2.milliseconds)).Pairwise (· > ·) then
      some ⟨parts.foldl (fun total c => total + componentMilliseconds c) 0 * Nat.pow 10 6⟩
    else none
  | none => none

/-- A number of seconds to the nearest nanosecond, a half going to even; `none` if it is negative,
not finite or 2^64 seconds or more. -/
def ofSeconds? (x : Binary64) : Option Duration :=
  if !x.isFinite || (x.isNegative && !x.isZero) then none
  else
    let nanoseconds := Binary64.roundQuotient (x.numerator * Nat.pow 10 9) x.denominator
    if nanoseconds < Nat.pow 2 64 * Nat.pow 10 9 then some ⟨nanoseconds⟩ else none

/-- The seconds as a floating point number: whole seconds and the fraction are rounded each, then
their sum. -/
def toSeconds (d : Duration) : Binary64 :=
  (Binary64.ofNat d.seconds).addMagnitudes
    ((Binary64.ofNat d.subsecond).divMagnitudes (Binary64.ofNat (Nat.pow 10 9)))

end Duration

end QueryPolicy

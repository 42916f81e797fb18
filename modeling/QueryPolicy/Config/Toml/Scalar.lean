import QueryPolicy.Config.Value

/-!
# Scalars of TOML

Booleans, integers, floats, dates and times. Each is a run of letters, digits and a few marks.
-/

namespace QueryPolicy.Config.Toml

/-- Characters of which scalars are made. -/
def isScalarChar (c : Char) : Bool :=
  c.isAlphanum || c == '_' || c == '+' || c == '-' || c == '.' || c == ':'

/-! ## Integers and floats -/

/-- Digits of a base with single underscores between them; the digits without the underscores. -/
def groupedDigits? (base : Nat) : List Char → Option (List Char)
  | [] => none
  | [c] => if isDigitOf base c then some [c] else none
  | c :: '_' :: cs => if isDigitOf base c then (groupedDigits? base cs).map (c :: ·) else none
  | c :: cs => if isDigitOf base c then (groupedDigits? base cs).map (c :: ·) else none

/-- Decimal digits of a whole number, which has no leading zeros. -/
def wholeDigits? (cs : List Char) : Option (List Char) :=
  match groupedDigits? 10 cs with
  | some ['0'] => some ['0']
  | some ('0' :: _) => none
  | digits => digits

/-- An integer of 64 bits with a sign. -/
def boundedInteger? (n : Int) : Option Value :=
  if -Int.pow 2 63 ≤ n && n < Int.pow 2 63 then some (.signed n) else none

/-- An integer in decimal notation, or without sign in base 16, 8 or 2. -/
def integer? (cs : List Char) : Option Value :=
  let inBase (base : Nat) (digits : List Char) : Option Value :=
    ((groupedDigits? base digits).bind (natOfDigits? base)).bind fun n => boundedInteger? n
  match cs with
  | '0' :: 'x' :: digits => inBase 16 digits
  | '0' :: 'o' :: digits => inBase 8 digits
  | '0' :: 'b' :: digits => inBase 2 digits
  | cs =>
    let (negative, digits) := splitSign cs
    ((wholeDigits? digits).bind (natOfDigits? 10)).bind fun n =>
      boundedInteger? (if negative then -(n : Int) else n)

/-- The exponent of a float without underscores, its mark included; empty if there is none. -/
def exponentText? (cs : List Char) : Option (List Char) :=
  match cs with
  | [] => some []
  | e :: rest =>
    if e == 'e' || e == 'E' then
      let (negative, digits) := splitSign rest
      (groupedDigits? 10 digits).map fun ds => 'e' :: (if negative then '-' :: ds else ds)
    else none

/-- The fraction of a float without underscores, its point included; empty if there is none. -/
def fractionText? (cs : List Char) : Option (List Char) :=
  match cs with
  | [] => some []
  | '.' :: digits => (groupedDigits? 10 digits).map ('.' :: ·)
  | _ => none

/-- A float: a whole number with a fraction, an exponent, or both; or one of the special values. A
float too large for the format is none, unless it is negative. -/
def float? (cs : List Char) : Option Value :=
  let (negative, body) := splitSign cs
  if body = "inf".toList then some (.float (.ofMagnitude negative Binary64.infiniteMagnitude))
  else if body = "nan".toList then
    some (.float (.ofMagnitude negative (Binary64.infiniteMagnitude + Nat.pow 2 51)))
  else
    let whole := body.takeWhile fun c => c.isDigit || c == '_'
    let rest := body.drop whole.length
    let fraction := rest.takeWhile fun c => c != 'e' && c != 'E'
    let exponent := rest.drop fraction.length
    match wholeDigits? whole, fractionText? fraction, exponentText? exponent with
    | some w, some f, some e =>
      if f.isEmpty && e.isEmpty then none
      else
        (Binary64.ofNumeral? negative (w ++ f ++ e)).bind fun x =>
          if x = Binary64.infinity then none else some (.float x)
    | _, _, _ => none

/-! ## Dates and times -/

/-- A number of exactly so many digits, within bounds. -/
def numberField? (digits low high : Nat) (cs : List Char) : Option Nat :=
  if cs.length = digits then
    (natOfDigits? 10 cs).bind fun n => if low ≤ n && n ≤ high then some n else none
  else none

/-- Whether a year of the Gregorian calendar is a leap year. -/
def isLeapYear (year : Nat) : Bool := year % 4 = 0 && (year % 100 ≠ 0 || year % 400 = 0)

/-- The number of days of a month. -/
def daysOfMonth (year month : Nat) : Nat :=
  if month = 2 then if isLeapYear year then 29 else 28
  else if month = 4 || month = 6 || month = 9 || month = 11 then 30 else 31

/-- Whether a text is a date: year, month and day. -/
def isDate (cs : List Char) : Bool :=
  match numberField? 4 0 9999 (cs.take 4), cs.drop 4 with
  | some year, '-' :: rest =>
    match numberField? 2 1 12 (rest.take 2), rest.drop 2 with
    | some month, '-' :: day => (numberField? 2 1 (daysOfMonth year month) day).isSome
    | _, _ => false
  | _, _ => false

/-- Whether a text is a time of day: hours, minutes, seconds and an optional fraction. -/
def isTime (cs : List Char) : Bool :=
  match cs.take 8, cs.drop 8 with
  | [h, h', ':', m, m', ':', s, s'], fraction =>
    (numberField? 2 0 23 [h, h']).isSome && (numberField? 2 0 59 [m, m']).isSome &&
      (numberField? 2 0 60 [s, s']).isSome &&
      (match fraction with
        | [] => true
        | '.' :: digits => (natOfDigits? 10 digits).isSome
        | _ => false)
  | _, _ => false

/-- Whether a text is an offset from universal time. -/
def isZone (cs : List Char) : Bool :=
  match cs with
  | [z] => z == 'Z' || z == 'z'
  | [sign, h, h', ':', m, m'] =>
    (sign == '+' || sign == '-') &&
      (numberField? 2 0 23 [h, h']).isSome && (numberField? 2 0 59 [m, m']).isSome
  | _ => false

/-- Whether a text is a time of day with an optional offset. -/
def isZonedTime (cs : List Char) : Bool :=
  let time := cs.takeWhile fun c => c.isDigit || c == ':' || c == '.'
  let zone := cs.drop time.length
  isTime time && (zone.isEmpty || isZone zone)

/-- Whether a run is a date, a time, or a date and a time around a `T`. -/
def isDateTime (cs : List Char) : Bool :=
  isDate cs || isTime cs ||
    (isDate (cs.take 10) &&
      match cs.drop 10 with
      | t :: rest => (t == 'T' || t == 't') && isZonedTime rest
      | [] => false)

/-- A date or time as a value: a table with its text. -/
def dateTimeValue (cs : List Char) : Value :=
  .dict [("datetime", .string (String.ofList cs))]

/-! ## Scalars -/

/-- The value of a run. -/
def scalarOfRun? (cs : List Char) : Option Value :=
  if cs = "true".toList then some (.bool true)
  else if cs = "false".toList then some (.bool false)
  else if isDateTime cs then some (dateTimeValue cs)
  else (float? cs).or (integer? cs)

/-- The scalar at the start of a text, and its length. A space may divide a date from a time. -/
def scalar? (cs : List Char) : Option (Value × Nat) :=
  let run := cs.takeWhile isScalarChar
  let next := (cs.drop (run.length + 1)).takeWhile isScalarChar
  let spaced := (cs.drop run.length).head? = some ' ' && (next.head?.any (·.isDigit))
  if isDate run && spaced then
    if isZonedTime next then
      let length := run.length + 1 + next.length
      some (dateTimeValue (cs.take length), length)
    else none
  else (scalarOfRun? run).map (·, run.length)

end QueryPolicy.Config.Toml

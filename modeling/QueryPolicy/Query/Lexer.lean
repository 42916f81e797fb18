import QueryPolicy.Number.Decimal
import QueryPolicy.Query.Token
import QueryPolicy.Text.Quoted

/-!
# Tokens of a text

The scanner reads one token at a time and knows whether it stands inside braces or brackets. Each
scanning function counts the characters it takes, so the rest of the text is what is left when
they are dropped.
-/

namespace QueryPolicy.Query

/-! ## Lexical errors -/

/-- Why a text has no tokens. -/
inductive LexicalError
  | unclosedParen
  | unexpectedRightParen
  | unexpectedRightBrace
  | unexpectedRightBracket
  | unexpectedChar (c : Char)
  | unexpectedAfterEqual (c : Char)
  | unexpectedAfterDot (c : Char)
  | unexpectedAfterBang (c : Char)
  | bangAtEnd
  | unexpectedAfterBangInBraces (c : Char)
  | unexpectedInBraces (c : Char)
  | leftBraceInBraces
  | endInBraces
  | unexpectedInBrackets (c : Char)
  | leftBracketInBrackets
  | secondColon
  | colonBeforeDuration
  | endInBrackets
  | unknownEscape (c : Char)
  | unterminatedEscape
  | unterminatedString (mark : Char)
  | badNumber (text : String)
  deriving DecidableEq

/-- The message to the author of the query. -/
def LexicalError.message : LexicalError → String
  | unclosedParen => "unclosed left parenthesis"
  | unexpectedRightParen => "unexpected right parenthesis ')'"
  | unexpectedRightBrace => "unexpected right brace '\x7d'"
  | unexpectedRightBracket => "unexpected right bracket ']'"
  | unexpectedChar c => "unexpected character: " ++ Text.quoteChar c
  | unexpectedAfterEqual c => "unexpected character after '=': '" ++ c.toString ++ "'"
  | unexpectedAfterDot c => "unexpected character after '.': '" ++ c.toString ++ "'"
  | unexpectedAfterBang c => "unexpected character after '!': '" ++ c.toString ++ "'"
  | bangAtEnd => "'!' can not be at the end"
  | unexpectedAfterBangInBraces c =>
    "unexpected character after '!' inside braces: '" ++ c.toString ++ "'"
  | unexpectedInBraces c => "unexpected character inside braces: '" ++ c.toString ++ "'"
  | leftBraceInBraces => "unexpected left brace '\x7b' inside braces"
  | endInBraces => "unexpected end of input inside braces"
  | unexpectedInBrackets c => "unexpected character inside brackets: '" ++ c.toString ++ "'"
  | leftBracketInBrackets => "unexpected left brace '[' inside brackets"
  | secondColon => "unexpected second colon(:) in brackets"
  | colonBeforeDuration => "expect duration before first colon(:) in brackets"
  | endInBrackets => "unexpected end of input inside brackets"
  | unknownEscape c => "unknown escape sequence '" ++ c.toString ++ "'"
  | unterminatedEscape => "escape sequence not terminated"
  | unterminatedString mark => "unterminated quoted string " ++ mark.toString
  | badNumber text => "bad number or duration syntax: " ++ text

/-! ## Character classes -/

/-- Blanks between tokens; the vertical tab is none. -/
def isBlank (c : Char) : Bool := c == ' ' || c == '\t' || c == '\n' || c == '\x0c' || c == '\r'

/-- ASCII letters and the underscore. -/
def isAlpha (c : Char) : Bool := c.isAlpha || c == '_'

/-- ASCII letters, digits and the underscore. -/
def isAlnum (c : Char) : Bool := isAlpha c || c.isDigit

/-- Characters that end a line comment. -/
def isLineEnd (c : Char) : Bool := c == '\n' || c == '\r'

/-- How many characters at the start of a text are in a class. -/
def spanLength (test : Char → Bool) (cs : List Char) : Nat := (cs.takeWhile test).length

/-- Whether a text starts with a character of a class. -/
def startsWith (test : Char → Bool) (cs : List Char) : Bool :=
  match cs with
  | c :: _ => test c
  | [] => false

/-! ## Comments and strings -/

/-- The length of a comment after its mark, with the character that ends its line. -/
def commentLength (cs : List Char) : Nat := spanLength (fun c => !isLineEnd c) cs + 1

/-- Characters that may follow a backslash in a string, besides the string's own mark. -/
def isEscapable (c : Char) : Bool := "abfnrtv\\01234567xuU".toList.contains c

/-- The number of characters before the mark that closes a string. -/
def stringLength (mark : Char) : List Char → Except LexicalError Nat
  | [] => .error (.unterminatedString mark)
  | ['\x5c'] => .error .unterminatedEscape
  | '\x5c' :: c :: cs =>
    if c == mark || isEscapable c then (stringLength mark cs).map (· + 2)
    else .error (.unknownEscape c)
  | c :: cs => if c == mark then .ok 0 else (stringLength mark cs).map (· + 1)

/-! ## Numbers and durations -/

/-- The length of an exponent: `e`, an optional sign, decimal digits. -/
def exponentLength (cs : List Char) : Nat :=
  match cs with
  | e :: cs' =>
    if e == 'e' || e == 'E' then
      let sign := if startsWith (fun c => c == '+' || c == '-') cs' then 1 else 0
      1 + sign + spanLength Char.isDigit (cs'.drop sign)
    else 0
  | [] => 0

/-- The length of a fraction: a point and digits. -/
def fractionLength (isDigit : Char → Bool) (cs : List Char) : Nat :=
  match cs with
  | '.' :: cs' => 1 + spanLength isDigit cs'
  | _ => 0

/-- The length of the hexadecimal mark of a number. -/
def hexMarkLength (cs : List Char) : Nat :=
  match cs with
  | '0' :: x :: _ => if x == 'x' || x == 'X' then 2 else 0
  | _ => 0

/-- The length of the number at the start of a text. -/
def numberLength (cs : List Char) : Nat :=
  let hex := hexMarkLength cs
  let isDigit := if hex = 0 then Char.isDigit else isDigitOf 16
  let whole := hex + spanLength isDigit (cs.drop hex)
  let fraction := whole + fractionLength isDigit (cs.drop whole)
  fraction + exponentLength (cs.drop fraction)

/-- Where a scan for a duration stands: before the first unit, after a unit that an `s` may extend,
after that `s`, or in the digits before a further unit. -/
inductive DurationState
  | firstUnit | afterUnit | afterSecond | digits
  deriving DecidableEq

/-- Scans the units of a duration, after its first digits. The answer says whether they form a
duration that no letter or digit follows, and how many characters were taken. -/
def scanUnits : DurationState → List Char → Bool × Nat
  | .firstUnit, [] => (false, 0)
  | .digits, [] => (false, 0)
  | .afterUnit, [] => (true, 0)
  | .afterSecond, [] => (true, 0)
  | state, c :: cs =>
    let take (next : DurationState) : Bool × Nat :=
      let (ok, n) := scanUnits next cs
      (ok, n + 1)
    match state with
    | .firstUnit => if "smhdwy".toList.contains c then take .afterUnit else (false, 0)
    | .digits =>
      if c.isDigit then take .digits
      else if "smhdw".toList.contains c then take .afterUnit else (false, 0)
    | .afterUnit =>
      if c == 's' then take .afterSecond
      else if c.isDigit then take .digits else (!isAlnum c, 0)
    | .afterSecond => if c.isDigit then take .digits else (!isAlnum c, 0)

/-- The number or duration at the start of a text, and its length. A number that a letter or a
point follows must go on as a duration. -/
def numberOrDuration (cs : List Char) : Except LexicalError (Token × Nat) :=
  let n := numberLength cs
  let rest := cs.drop n
  if startsWith (fun c => isAlpha c || c == '.') rest then
    let (ok, m) := scanUnits .firstUnit rest
    if ok then .ok (.duration (String.ofList (cs.take (n + m))), n + m)
    else .error (.badNumber (String.ofList (cs.take (n + m + 1))))
  else .ok (.number (String.ofList (cs.take n)), n)

/-! ## Words -/

/-- The token of a word outside braces. -/
def wordToken (text : List Char) : Token :=
  let word := String.ofList text
  let lower := String.ofList (text.map Char.toLower)
  if lower == "inf" || lower == "nan" then .number word
  else
    match Keyword.ofWord? lower with
    | some k => .word (.keyword k) word
    | none => .word (if text.contains ':' then .metricIdentifier else .identifier) word

/-- Whether a text inside braces starts with the word `or` and a space. -/
def startsWithOr (cs : List Char) : Bool :=
  match cs with
  | o :: r :: ' ' :: _ => o.toLower == 'o' && r.toLower == 'r'
  | _ => false

/-! ## Scanning -/

/-- Where the scanner stands. -/
inductive LexicalMode
  /-- Outside braces and brackets, in some depth of parentheses. -/
  | outside
  /-- Between braces. -/
  | braces
  /-- Between brackets; whether a colon was seen, and whether the bracket was just opened. -/
  | brackets (colon fresh : Bool)
  deriving DecidableEq

/-- The scanner's knowledge of what it has read: the open parentheses and the mode. -/
structure LexicalState where
  depth : Nat := 0
  mode : LexicalMode := .outside
  deriving DecidableEq

/-- One step of the scanner: the token it completes, if any, the state after it, and how many
characters it takes beyond the first. -/
structure LexicalStep where
  token : Option Token
  state : LexicalState
  taken : Nat := 0

/-- A step that completes a token and keeps the state. -/
def LexicalStep.emit (state : LexicalState) (token : Token) (taken : Nat) : LexicalStep :=
  { token := some token, state := state, taken := taken }

/-- A step that completes a mark and keeps the state. -/
def LexicalStep.mark (state : LexicalState) (m : Mark) (taken : Nat) : LexicalStep :=
  .emit state (.mark m) taken

/-- A step that skips characters. -/
def LexicalStep.skip (state : LexicalState) (taken : Nat) : LexicalStep :=
  { token := none, state := state, taken := taken }

/-- The string after its opening mark. -/
def stringStep (state : LexicalState) (mark : Char) (cs : List Char) :
    Except LexicalError LexicalStep :=
  (stringLength mark cs).map fun n =>
    .emit state (.string (String.ofList (cs.take n))) (n + 1)

/-- A number or duration from its first character on. -/
def numberStep (state : LexicalState) (c : Char) (cs : List Char) :
    Except LexicalError LexicalStep :=
  (numberOrDuration (c :: cs)).map fun (token, n) => .emit state token (n - 1)

/-- The mark that a character makes by itself outside braces and brackets. -/
def singleMark? : Char → Option Mark
  | ',' => some .comma
  | '@' => some .at_
  | '+' => some .add
  | '-' => some .sub
  | '*' => some .mul
  | '/' => some .div
  | '%' => some .mod
  | '^' => some .pow
  | _ => none

/-- Whether a character encloses strings. -/
def isQuotationMark (c : Char) : Bool := c == '\x22' || c == '\x27' || c == '\x60'

/-- A comparison mark that a following `=` extends. -/
def comparisonStep (state : LexicalState) (short long : Mark) (cs : List Char) : LexicalStep :=
  if startsWith (· == '=') cs then .mark state long 1 else .mark state short 0

/-- An equals sign outside braces. -/
def equalStep (state : LexicalState) (cs : List Char) : Except LexicalError LexicalStep :=
  if startsWith (· == '~') cs then .error (.unexpectedAfterEqual '~')
  else .ok (comparisonStep state .assign .eqeq cs)

/-- An exclamation mark outside braces. -/
def bangStep (state : LexicalState) : List Char → Except LexicalError LexicalStep
  | [] => .error .bangAtEnd
  | c :: _ => if c == '=' then .ok (.mark state .ne 1) else .error (.unexpectedAfterBang c)

/-- A point outside braces. -/
def dotStep (state : LexicalState) : List Char → Except LexicalError LexicalStep
  | [] => .error (.unexpectedChar '.')
  | c :: cs => if c.isDigit then numberStep state '.' (c :: cs) else .error (.unexpectedAfterDot c)

/-- A step outside braces and brackets. -/
def outsideStep (s : LexicalState) (c : Char) (cs : List Char) :
    Except LexicalError LexicalStep :=
  match singleMark? c with
  | some m => .ok (.mark s m 0)
  | none =>
    if isBlank c then .ok (.skip s 0)
    else if c.isDigit then numberStep s c cs
    else if isAlpha c || c == ':' then
      let n := spanLength (fun c => isAlnum c || c == ':') cs
      .ok (.emit s (wordToken (c :: cs.take n)) n)
    else if isQuotationMark c then stringStep s c cs
    else
      match c with
      | '#' => .ok (.skip s (commentLength cs))
      | '=' => equalStep s cs
      | '!' => bangStep s cs
      | '<' => .ok (comparisonStep s .lt .le cs)
      | '>' => .ok (comparisonStep s .gt .ge cs)
      | '.' => dotStep s cs
      | '(' => .ok (.mark { s with depth := s.depth + 1 } .leftParen 0)
      | ')' =>
        if s.depth = 0 then .error .unexpectedRightParen
        else .ok (.mark { s with depth := s.depth - 1 } .rightParen 0)
      | '[' => .ok (.mark { s with mode := .brackets false true } .leftBracket 0)
      | ']' => .error .unexpectedRightBracket
      | '\x7b' => .ok (.mark { s with mode := .braces } .leftBrace 0)
      | '\x7d' => .error .unexpectedRightBrace
      | _ => .error (.unexpectedChar c)

/-- An exclamation mark between braces. -/
def bracesBangStep (state : LexicalState) : List Char → Except LexicalError LexicalStep
  | [] => .error .bangAtEnd
  | c :: _ =>
    if c == '=' then .ok (.mark state .ne 1)
    else if c == '~' then .ok (.mark state .regexNotMatch 1)
    else .error (.unexpectedAfterBangInBraces c)

/-- A step between braces, where words are no keywords except an `or` before a space. -/
def bracesStep (s : LexicalState) (c : Char) (cs : List Char) : Except LexicalError LexicalStep :=
  if isBlank c then .ok (.skip s 0)
  else if startsWithOr (c :: cs) then
    .ok (.emit s (.word (.keyword .setOr) (String.ofList (c :: cs.take 1))) 1)
  else if isAlpha c then
    let n := spanLength isAlnum cs
    .ok (.emit s (.word .identifier (String.ofList (c :: cs.take n))) n)
  else if isQuotationMark c then stringStep s c cs
  else
    match c with
    | '#' => .ok (.skip s (commentLength cs))
    | ',' => .ok (.mark s .comma 0)
    | '=' =>
      if startsWith (· == '~') cs then .ok (.mark s .regexMatch 1) else .ok (.mark s .assign 0)
    | '!' => bracesBangStep s cs
    | '\x7b' => .error .leftBraceInBraces
    | '\x7d' => .ok (.mark { s with mode := .outside } .rightBrace 0)
    | _ => .error (.unexpectedInBraces c)

/-- A step between brackets. -/
def bracketsStep (s : LexicalState) (colon fresh : Bool) (c : Char) (cs : List Char) :
    Except LexicalError LexicalStep :=
  let later : LexicalState := { s with mode := .brackets colon false }
  if isBlank c then .ok (.skip later 0)
  else if c.isDigit then numberStep later c cs
  else
    match c with
    | ':' =>
      if colon then .error .secondColon
      else if fresh then .error .colonBeforeDuration
      else .ok (.mark { s with mode := .brackets true false } .colon 0)
    | ']' => .ok (.mark { s with mode := .outside } .rightBracket 0)
    | '[' => .error .leftBracketInBrackets
    | _ => .error (.unexpectedInBrackets c)

/-- A step from a state. -/
def lexicalStep (s : LexicalState) (c : Char) (cs : List Char) : Except LexicalError LexicalStep :=
  match s.mode with
  | .outside => outsideStep s c cs
  | .braces => bracesStep s c cs
  | .brackets colon fresh => bracketsStep s colon fresh c cs

/-- What the end of the text means in a state. -/
def lexicalEnd (s : LexicalState) : Except LexicalError (List Token) :=
  match s.mode with
  | .outside => if s.depth = 0 then .ok [.endOfInput] else .error .unclosedParen
  | .braces => .error .endInBraces
  | .brackets _ _ => .error .endInBrackets

/-- The tokens of a text from a state on. -/
def tokensFrom (s : LexicalState) : List Char → Except LexicalError (List Token)
  | [] => lexicalEnd s
  | c :: cs =>
    match lexicalStep s c cs with
    | .error e => .error e
    | .ok step => (tokensFrom step.state (cs.drop step.taken)).map (step.token.toList ++ ·)
termination_by cs => cs.length
decreasing_by simp only [List.length_drop, List.length_cons]; omega

/-- The tokens of a text, the end of input last. -/
def tokens (text : String) : Except LexicalError (List Token) := tokensFrom {} text.toList

end QueryPolicy.Query

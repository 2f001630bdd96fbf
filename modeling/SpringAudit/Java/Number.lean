import SpringAudit.Text.Basic

/-!
# The lengths of number literals

The functions here tell how many characters at the start of a text belong to a
number; the number itself is never evaluated.  A length suffix `l` or `L` belongs
to any digit sequence.  Where digits must follow but the text is at its end,
reading stops altogether.
-/

namespace SpringAudit.Java

/-- Why a number literal has no end. -/
inductive NumberFault where
  /-- The text ends where digits are looked for. -/
  | textEnds
  /-- A hexadecimal fraction has no exponent; what stands in its place is given. -/
  | exponentMissing (shown : Option CodePoint)

/-- Whether the text starts with one of the characters. -/
def startsWithAny (characters t : Text) : Bool :=
  t.head?.any characters.contains

/-- The length of one of the characters at the start of the text, if there is one. -/
def lengthOfAny (characters t : Text) : Nat :=
  if startsWithAny characters t then 1 else 0

/-- The length of a digit sequence: digits with inner underscores and a length suffix. -/
def digitsLength (isDigit : CodePoint → Bool) (t : Text) : Except NumberFault Nat :=
  if t.isEmpty then .error .textEnds
  else
    let run := t.takeWhile fun c : CodePoint => isDigit c || c = '_'
    let digits := (run.reverse.dropWhile fun c : CodePoint => c = '_').length
    .ok (digits + lengthOfAny "lL" (t.drop run.length))

/-- The length of a fraction with its point, if there is one. -/
def fractionLength (isDigit : CodePoint → Bool) (t : Text) : Except NumberFault Nat :=
  if startsWithAny "." t then (digitsLength isDigit (t.drop 1)).map (· + 1) else .ok 0

/-- The length of an exponent without its letter, and of the type suffix. -/
def exponentLength (t : Text) : Except NumberFault Nat := do
  let sign := lengthOfAny "+-" t
  let digits ← digitsLength CodePoint.isAsciiDigit (t.drop sign)
  return sign + digits + lengthOfAny "fFdD" (t.drop (sign + digits))

/-- The length of a decimal integer or floating point number. -/
def decimalLength (t : Text) : Except NumberFault Nat := do
  let whole ← digitsLength CodePoint.isAsciiDigit t
  let fraction ← fractionLength CodePoint.isAsciiDigit (t.drop whole)
  let rest := t.drop (whole + fraction)
  if startsWithAny "eE" rest then
    return whole + fraction + 1 + (← exponentLength (rest.drop 1))
  else return whole + fraction + lengthOfAny "fFdD" rest

/-- The length of a hexadecimal number after its mark. -/
def hexadecimalLength (t : Text) : Except NumberFault Nat := do
  let whole ← digitsLength CodePoint.isHexDigit t
  let rest := t.drop whole
  if startsWithAny ".pP" rest then
    let fraction ← fractionLength CodePoint.isHexDigit rest
    let rest := rest.drop fraction
    if startsWithAny "pP" rest then
      return whole + fraction + 1 + (← exponentLength (rest.drop 1))
    else .error (.exponentMissing rest.head?)
  else return whole

/-- The length of a number literal.  A zero decides by the next character what it starts. -/
def numberLength (t : Text) : Except NumberFault Nat :=
  match t with
  | z :: rest =>
    if z = '0' then
      match rest with
      | [] => .error .textEnds
      | c :: more =>
        if c = 'x' ∨ c = 'X' then (hexadecimalLength more).map (· + 2)
        else if c = 'b' ∨ c = 'B' then
          (digitsLength (fun c : CodePoint => c = '0' || c = '1') more).map (· + 2)
        else if c.isOctalDigit then (digitsLength CodePoint.isOctalDigit rest).map (· + 1)
        else decimalLength t
    else decimalLength t
  | [] => .error .textEnds

end SpringAudit.Java

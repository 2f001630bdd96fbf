import SpringAudit.Text.Basic

/-!
# Integers in text

The decimal digits of Unicode 14 (general category Nd) stand in runs of ten in
increasing order of value, so the table lists the zero of each run.

An integer may stand between blanks, carry a sign and hold single underscores
between its digits; digits of any script count.  In base sixteen the digits may
follow `0x`.  The information separators U+001C to U+001F are not skipped.

A whole number is an integer in base ten that may also be written as a decimal
fraction, as long as nothing but zeros follows its point.
-/

namespace SpringAudit

/-- The code points of the digit zero in each script. -/
def digitZeros : List Nat := [
   0x30, 0x660, 0x6F0, 0x7C0, 0x966, 0x9E6, 0xA66, 0xAE6, 0xB66, 0xBE6, 0xC66, 0xCE6, 0xD66,
   0xDE6, 0xE50, 0xED0, 0xF20, 0x1040, 0x1090, 0x17E0, 0x1810, 0x1946, 0x19D0, 0x1A80, 0x1A90,
   0x1B50, 0x1BB0, 0x1C40, 0x1C50, 0xA620, 0xA8D0, 0xA900, 0xA9D0, 0xA9F0, 0xAA50, 0xABF0,
   0xFF10, 0x104A0, 0x10D30, 0x11066, 0x110F0, 0x11136, 0x111D0, 0x112F0, 0x11450, 0x114D0,
   0x11650, 0x116C0, 0x11730, 0x118E0, 0x11950, 0x11C50, 0x11D50, 0x11DA0, 0x16A60, 0x16AC0,
   0x16B50, 0x1D7CE, 0x1D7D8, 0x1D7E2, 0x1D7EC, 0x1D7F6, 0x1E140, 0x1E2F0, 0x1E950, 0x1FBF0 ]

/-- The value of a decimal digit of any script. -/
def CodePoint.decimalValue? (c : CodePoint) : Option Nat :=
  (digitZeros.find? fun first => first ≤ c.toNat && c.toNat ≤ first + 9).map (c.toNat - ·)

namespace Text

/-- The most digits of a decimal integer that is read. -/
def maxDecimalDigits : Nat := 4300

/-- The value of a digit in a base, if it is one. -/
def digitValue? (base : Nat) (c : CodePoint) : Option Nat :=
  (c.hexValue? <|> c.decimalValue?).filter (· < base)

/-- The values of digits with single underscores between them. -/
def digitsWithUnderscores? (base : Nat) : Text → Option (List Nat)
  | [] => none
  | [c] => (digitValue? base c).map ([·])
  | c :: d :: rest =>
    match digitValue? base c with
    | none => none
    | some value =>
      if d = '_' then (digitsWithUnderscores? base rest).map (value :: ·)
      else (digitsWithUnderscores? base (d :: rest)).map (value :: ·)

/-- The value of a digit sequence, the most significant digit first. -/
def valueOfDigits (base : Nat) (digits : List Nat) : Nat :=
  digits.foldl (fun value digit => value * base + digit) 0

/-- The digits after an optional base mark, which one underscore may follow. -/
def withoutBaseMark (base : Nat) : Text → Text
  | z :: x :: rest =>
    if base = 16 ∧ z.decimalValue? = some 0 ∧ (x = 'x' ∨ x = 'X') then
      match rest with
      | u :: more => if u = '_' then more else rest
      | [] => rest
    else z :: x :: rest
  | t => t

/-- The natural number that a text without blanks and sign denotes. -/
def toNatInBase? (base : Nat) (t : Text) : Option Nat :=
  match digitsWithUnderscores? base (withoutBaseMark base t) with
  | none => none
  | some digits =>
    if base = 10 ∧ maxDecimalDigits < digits.length then none
    else some (valueOfDigits base digits)

/-- Whether a code point may stand around an integer. -/
def isAroundInteger (c : CodePoint) : Bool :=
  c.isBlank && !(0x1C ≤ c.toNat && c.toNat ≤ 0x1F)

/-- The integer that a text without blanks denotes. -/
def signedInBase? (base : Nat) : Text → Option Int
  | [] => none
  | sign :: rest =>
    if sign = '+' then (toNatInBase? base rest).map Int.ofNat
    else if sign = '-' then (toNatInBase? base rest).map fun n => -Int.ofNat n
    else (toNatInBase? base (sign :: rest)).map Int.ofNat

/-- The integer that a text denotes in base ten or sixteen. -/
def toIntInBase? (base : Nat) (t : Text) : Option Int :=
  signedInBase? base (t.stripBy isAroundInteger)

/-- A number without its point and what follows, if that is zeros only. -/
def withoutZeroFraction (t : Text) : Text :=
  let whole : Text := t.takeWhile fun c : CodePoint => decide (c ≠ '.')
  let fraction := t.drop (whole.length + 1)
  if fraction.all fun c => decide (c = '0') then whole else t

/-- The whole number that a text denotes. -/
def toWholeNumber? (t : Text) : Option Int :=
  signedInBase? 10 (withoutZeroFraction (t.stripBy isAroundInteger))

end Text

end SpringAudit

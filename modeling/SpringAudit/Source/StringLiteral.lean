import SpringAudit.Text.Basic

/-!
# The values of string literals

A literal in double quotation marks denotes its characters with the escapes
replaced, once and from left to right.  A literal in triple marks is a text
block: what precedes its first line end is dropped.  An escape of one to three
octal digits takes as many as there are, and a backslash before any character
without a meaning stands for that character.
-/

namespace SpringAudit

/-- Why the escapes of a literal cannot be replaced. -/
inductive MalformedEscape where
  /-- A backslash and letters `u` without four hexadecimal digits. -/
  | unicodeWithoutDigits
  deriving DecidableEq

/-- Where reading stands with respect to an escape. -/
inductive LiteralState where
  | plain
  | backslash
  | marker
  | unicode (digits value : Nat)
  | octal (digits value : Nat)

/-- The meaning of a character after a backslash. -/
def escapedCharacter (c : CodePoint) : CodePoint :=
  if c = 'b' then '\x08'
  else if c = 't' then '\t'
  else if c = 'n' then '\n'
  else if c = 'f' then '\x0c'
  else if c = 'r' then '\r'
  else if c = 's' then ' '
  else c

/-- Replaces the escapes in the characters that follow. -/
def unescapeFrom : LiteralState → Text → Except MalformedEscape Text
  | .plain, [] => .ok []
  | .plain, c :: rest =>
    if c = '\\' then unescapeFrom .backslash rest
    else (unescapeFrom .plain rest).map (c :: ·)
  | .backslash, [] => .ok "\\"
  | .backslash, c :: rest =>
    if c = 'u' then unescapeFrom .marker rest
    else if c.isOctalDigit then unescapeFrom (.octal 1 (c.toNat - 0x30)) rest
    else (unescapeFrom .plain rest).map (escapedCharacter c :: ·)
  | .marker, [] => .error .unicodeWithoutDigits
  | .marker, c :: rest =>
    if c = 'u' then unescapeFrom .marker rest
    else match c.hexValue? with
      | some value => unescapeFrom (.unicode 1 value) rest
      | none => .error .unicodeWithoutDigits
  | .unicode _ _, [] => .error .unicodeWithoutDigits
  | .unicode digits value, c :: rest =>
    match c.hexValue? with
    | none => .error .unicodeWithoutDigits
    | some digit =>
      if digits < 3 then unescapeFrom (.unicode (digits + 1) (value * 16 + digit)) rest
      else (unescapeFrom .plain rest).map (CodePoint.ofNat (value * 16 + digit) :: ·)
  | .octal _ value, [] => .ok [CodePoint.ofNat value]
  | .octal digits value, c :: rest =>
    if c.isOctalDigit ∧ digits < 3 then
      unescapeFrom (.octal (digits + 1) (value * 8 + (c.toNat - 0x30))) rest
    else if c = '\\' then
      (unescapeFrom .backslash rest).map (CodePoint.ofNat value :: ·)
    else
      (unescapeFrom .plain rest).map fun more => CodePoint.ofNat value :: c :: more

/-- The text with its escapes replaced. -/
def unescape (t : Text) : Except MalformedEscape Text :=
  unescapeFrom .plain t

/-- The text after the first line end, or all of it if there is none. -/
def afterFirstLine (t : Text) : Text :=
  match t.dropWhile fun c : CodePoint => decide (c ≠ '\n') with
  | [] => t
  | _ :: rest => rest

/-- The text without its first and last code points. -/
def withoutEnds (count : Nat) (t : Text) : Text :=
  (t.drop count).take (t.length - 2 * count)

/-- The value of a literal as it is spelled, if it is a string. -/
def stringValue? (spelling : Text) : Except MalformedEscape (Option Text) :=
  if spelling.startsWith "\"\"\"" ∧ spelling.endsWith "\"\"\"" ∧ 6 ≤ spelling.length then
    (unescape (afterFirstLine (withoutEnds 3 spelling))).map some
  else if 2 ≤ spelling.length ∧ spelling.startsWith "\"" ∧ spelling.endsWith "\"" then
    (unescape (withoutEnds 1 spelling)).map some
  else .ok none

end SpringAudit

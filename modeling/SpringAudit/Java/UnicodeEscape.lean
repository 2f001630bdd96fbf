import SpringAudit.Text.Integer
import SpringAudit.Java.Failure

/-!
# Unicode escapes in source text

Before anything else an escape (a backslash, one or more letters `u` and four
characters) is replaced by the code point that the four characters denote as an
integer in base sixteen.  A backslash before any other character protects that
character.  At the end of the text fewer than four characters suffice.  When no
character follows the letters, they stay, and all text since the last escape is
written out a second time.
-/

namespace SpringAudit.Java

/-- Where reading stands with respect to an escape. -/
inductive EscapeState where
  | plain
  | backslash
  | marker (letters : Nat)
  | digits (taken : Text)

/-- The code point that the characters after the marker denote. -/
def escapeValue (source taken : Text) : Except SourceFailure CodePoint :=
  match Text.toIntInBase? 16 taken with
  | none => .error (.lexical ⟨.invalidUnicodeEscape, taken, 1, lineAround source 0⟩)
  | some (.ofNat n) =>
    match CodePoint.ofNat? n with
    | some c => .ok c
    | none => .error .abandoned
  | some (.negSucc _) => .error .abandoned

/-- Replaces the escapes in the text that follows; `sinceLast` holds, in reverse, what was
read since the last escape. -/
def expandFrom (source : Text) : EscapeState → Text → Text → Except SourceFailure Text
  | .plain, sinceLast, [] => .ok sinceLast.reverse
  | .plain, sinceLast, c :: rest =>
    if c = '\\' then expandFrom source .backslash sinceLast rest
    else expandFrom source .plain (c :: sinceLast) rest
  | .backslash, sinceLast, [] => .ok (('\\' : CodePoint) :: sinceLast).reverse
  | .backslash, sinceLast, c :: rest =>
    if c = 'u' then expandFrom source (.marker 1) sinceLast rest
    else expandFrom source .plain (c :: '\\' :: sinceLast) rest
  | .marker letters, sinceLast, [] =>
    .ok (sinceLast.reverse ++ sinceLast.reverse ++ "\\" ++ Text.repeated letters "u")
  | .marker letters, sinceLast, c :: rest =>
    if c = 'u' then expandFrom source (.marker (letters + 1)) sinceLast rest
    else expandFrom source (.digits [c]) sinceLast rest
  | .digits taken, sinceLast, [] => do
    let value ← escapeValue source taken
    return sinceLast.reverse ++ [value]
  | .digits taken, sinceLast, c :: rest =>
    if taken.length < 3 then expandFrom source (.digits (taken ++ [c])) sinceLast rest
    else do
      let value ← escapeValue source (taken ++ [c])
      let more ← expandFrom source .plain [] rest
      return sinceLast.reverse ++ value :: more

/-- The text with its escapes replaced. -/
def expandUnicodeEscapes (source : Text) : Except SourceFailure Text :=
  expandFrom source .plain [] source

end SpringAudit.Java

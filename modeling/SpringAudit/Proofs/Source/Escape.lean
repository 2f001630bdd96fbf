import SpringAudit.Proofs.Traversal
import SpringAudit.Source.StringLiteral

/-!
# When the escapes of a literal cannot be replaced

Replacing escapes fails at one place only: a backslash that no backslash before
it protects, followed by a letter `u` and then, after any more of these letters,
by fewer than four hexadecimal digits.  `Undecodable` says where such a place is
without running the reader, and `isError_unescape` shows that it is exact.
-/

namespace SpringAudit

/-- The letters of a Unicode escape. -/
def isMarkerLetter (c : CodePoint) : Bool :=
  c = 'u'

/-- Whether a text starts with a number of hexadecimal digits. -/
def startsWithHexDigits : Nat → Text → Bool
  | 0, _ => true
  | _ + 1, [] => false
  | count + 1, c :: rest => c.isHexDigit && startsWithHexDigits count rest

/-- Whether four hexadecimal digits follow any number of letters `u`. -/
def completesUnicode (t : Text) : Bool :=
  startsWithHexDigits 4 (t.dropWhile isMarkerLetter)

/-- A text with a Unicode escape that lacks digits.  What precedes it is read in pieces of a
backslash with the character after it, or of another character alone. -/
inductive Undecodable : Text → Prop where
  | here {rest : Text} (hDigits : ¬ completesUnicode rest) : Undecodable ('\\' :: 'u' :: rest)
  | afterEscape {c : CodePoint} {rest : Text} (hRest : Undecodable rest) :
      Undecodable ('\\' :: c :: rest)
  | afterPlain {c : CodePoint} {rest : Text} (hPlain : c ≠ '\\') (hRest : Undecodable rest) :
      Undecodable (c :: rest)

/-! ## Reading one piece -/

theorem not_undecodable_nil : ¬ Undecodable [] := by
  intro h
  cases h

theorem not_undecodable_backslash : ¬ Undecodable ['\\'] := by
  intro h
  cases h with
  | afterPlain hPlain _ => exact hPlain rfl

theorem undecodable_plain_iff {c : CodePoint} {rest : Text} (hPlain : c ≠ '\\') :
    Undecodable (c :: rest) ↔ Undecodable rest := by
  constructor
  · intro h
    cases h with
    | here => exact absurd rfl hPlain
    | afterEscape => exact absurd rfl hPlain
    | afterPlain _ hRest => exact hRest
  · exact .afterPlain hPlain

theorem undecodable_escape_iff {c : CodePoint} {rest : Text} (hLetter : c ≠ 'u') :
    Undecodable ('\\' :: c :: rest) ↔ Undecodable rest := by
  constructor
  · intro h
    cases h with
    | here => exact absurd rfl hLetter
    | afterEscape hRest => exact hRest
    | afterPlain hPlain => exact absurd rfl hPlain
  · exact .afterEscape

theorem undecodable_unicode_iff {rest : Text} :
    Undecodable ('\\' :: 'u' :: rest) ↔ ¬ completesUnicode rest ∨ Undecodable rest := by
  constructor
  · intro h
    cases h with
    | here hDigits => exact .inl hDigits
    | afterEscape hRest => exact .inr hRest
    | afterPlain hPlain => exact absurd rfl hPlain
  · rintro (hDigits | hRest)
    · exact .here hDigits
    · exact .afterEscape hRest

/-! ## The reader -/

namespace LiteralState

/-- What goes wrong in the text that follows, seen from a state of the reader. -/
def Undecodable : LiteralState → Text → Prop
  | .plain, t => SpringAudit.Undecodable t
  | .backslash, t => SpringAudit.Undecodable ('\\' :: t)
  | .marker, t => ¬ completesUnicode t ∨ SpringAudit.Undecodable t
  | .unicode digits _, t =>
    ¬ startsWithHexDigits (3 - digits + 1) t ∨ SpringAudit.Undecodable t
  | .octal _ _, t => SpringAudit.Undecodable t

end LiteralState

/-- A hexadecimal digit is neither a backslash nor the letter of an escape. -/
theorem ne_of_hexValue? {c : CodePoint} {value : Nat} (h : c.hexValue? = some value) :
    c ≠ '\\' ∧ isMarkerLetter c = false := by
  constructor
  · rintro rfl
    cases h
  · by_contra hLetter
    obtain rfl : c = 'u' := by simpa [isMarkerLetter] using hLetter
    cases h

/-- An octal digit is not a backslash. -/
theorem ne_backslash_of_isOctalDigit {c : CodePoint} (h : c.isOctalDigit = true) :
    c ≠ '\\' := by
  rintro rfl
  cases h

theorem completesUnicode_letter (rest : Text) :
    completesUnicode ('u' :: rest) = completesUnicode rest := by
  simp [completesUnicode, isMarkerLetter]

theorem completesUnicode_digit {c : CodePoint} {value : Nat} (rest : Text)
    (h : c.hexValue? = some value) :
    completesUnicode (c :: rest) = startsWithHexDigits 3 rest := by
  simp [completesUnicode, (ne_of_hexValue? h).2, startsWithHexDigits, CodePoint.isHexDigit, h]

theorem completesUnicode_other {c : CodePoint} (rest : Text) (hLetter : c ≠ 'u')
    (h : c.hexValue? = none) : completesUnicode (c :: rest) = false := by
  have hNoLetter : isMarkerLetter c = false := by simpa [isMarkerLetter] using hLetter
  simp [completesUnicode, hNoLetter, startsWithHexDigits, CodePoint.isHexDigit, h]

/-- The reader fails exactly on what goes wrong from where it stands. -/
theorem isError_unescapeFrom (t : Text) (state : LiteralState) :
    IsError (unescapeFrom state t) ↔ state.Undecodable t := by
  -- A state stands for the characters that led to it; they are put back in `Undecodable`.
  induction t generalizing state with
  | nil =>
      cases state with
      | plain => simp [unescapeFrom, LiteralState.Undecodable, not_undecodable_nil]
      | backslash => simp [unescapeFrom, LiteralState.Undecodable, not_undecodable_backslash]
      | marker =>
          simp [unescapeFrom, LiteralState.Undecodable, completesUnicode, startsWithHexDigits]
      | unicode digits value =>
          simp [unescapeFrom, LiteralState.Undecodable, startsWithHexDigits]
      | octal digits value =>
          simp [unescapeFrom, LiteralState.Undecodable, not_undecodable_nil]
  | cons c rest ih =>
      cases state with
      | plain =>
          by_cases hBackslash : c = '\\'
          · subst hBackslash
            rw [unescapeFrom, if_pos rfl]
            exact ih .backslash
          · simp only [unescapeFrom, if_neg hBackslash, isError_map, ih,
              LiteralState.Undecodable, undecodable_plain_iff hBackslash]
      | backslash =>
          by_cases hLetter : c = 'u'
          · subst hLetter
            rw [unescapeFrom, if_pos rfl]
            exact (ih .marker).trans undecodable_unicode_iff.symm
          · by_cases hOctal : c.isOctalDigit
            · simp only [unescapeFrom, if_neg hLetter, if_pos hOctal, ih,
                LiteralState.Undecodable, undecodable_escape_iff hLetter]
            · simp only [unescapeFrom, if_neg hLetter, if_neg hOctal, isError_map, ih,
                LiteralState.Undecodable, undecodable_escape_iff hLetter]
      | marker =>
          by_cases hLetter : c = 'u'
          · subst hLetter
            have hPlain : ('u' : CodePoint) ≠ '\\' := by decide
            rw [unescapeFrom, if_pos rfl, ih, LiteralState.Undecodable, LiteralState.Undecodable,
              completesUnicode_letter, undecodable_plain_iff hPlain]
          · rw [unescapeFrom, if_neg hLetter, LiteralState.Undecodable]
            cases hValue : c.hexValue? with
            | none => simp [completesUnicode_other rest hLetter hValue]
            | some value =>
                rw [completesUnicode_digit rest hValue,
                  undecodable_plain_iff (ne_of_hexValue? hValue).1]
                exact ih (.unicode 1 value)
      | unicode digits value =>
          rw [unescapeFrom, LiteralState.Undecodable, startsWithHexDigits, CodePoint.isHexDigit]
          cases hValue : c.hexValue? with
          | none => simp
          | some digit =>
              rw [undecodable_plain_iff (ne_of_hexValue? hValue).1]
              -- Before the fourth digit the reader goes on, at the fourth it starts anew.
              by_cases hMore : digits < 3
              · have hLeft : 3 - digits = 3 - (digits + 1) + 1 := by omega
                simp only [if_pos hMore, ih, LiteralState.Undecodable, hLeft,
                  Option.isSome_some, Bool.true_and]
              · have hLast : 3 - digits = 0 := by omega
                simp only [if_neg hMore, isError_map, ih, LiteralState.Undecodable, hLast,
                  startsWithHexDigits, Option.isSome_some, Bool.true_and, not_true_eq_false,
                  false_or]
      | octal digits value =>
          rw [unescapeFrom]
          -- What ends an octal escape is read again, and it may begin the next one.
          by_cases hOctal : c.isOctalDigit ∧ digits < 3
          · simp only [if_pos hOctal, ih, LiteralState.Undecodable,
              undecodable_plain_iff (ne_backslash_of_isOctalDigit hOctal.1)]
          · by_cases hBackslash : c = '\\'
            · subst hBackslash
              simp only [if_neg hOctal, if_true, isError_map, ih, LiteralState.Undecodable]
            · simp only [if_neg hOctal, if_neg hBackslash, isError_map, ih,
                LiteralState.Undecodable, undecodable_plain_iff hBackslash]

/-- Replacing the escapes of a text fails exactly if one of them lacks digits. -/
theorem isError_unescape {t : Text} : IsError (unescape t) ↔ Undecodable t :=
  isError_unescapeFrom t .plain

/-! ## Literals as they are spelled -/

/-- What stands between the marks of a string literal or text block, if the spelling is one. -/
def literalBody? (spelling : Text) : Option Text :=
  if spelling.startsWith "\"\"\"" ∧ spelling.endsWith "\"\"\"" ∧ 6 ≤ spelling.length then
    some (afterFirstLine (withoutEnds 3 spelling))
  else if 2 ≤ spelling.length ∧ spelling.startsWith "\"" ∧ spelling.endsWith "\"" then
    some (withoutEnds 1 spelling)
  else none

theorem stringValue?_eq (spelling : Text) :
    stringValue? spelling =
      match literalBody? spelling with
      | some body => (unescape body).map some
      | none => .ok none := by
  unfold stringValue? literalBody?
  split
  · rfl
  · split <;> rfl

/-- A string literal whose escapes cannot be replaced. -/
def UndecodableLiteral (spelling : Text) : Prop :=
  ∃ body, literalBody? spelling = some body ∧ Undecodable body

/-- The value of a literal fails exactly if it is a string with an escape that lacks digits. -/
theorem isError_stringValue? {spelling : Text} :
    IsError (stringValue? spelling) ↔ UndecodableLiteral spelling := by
  rw [stringValue?_eq, UndecodableLiteral]
  cases literalBody? spelling with
  | none => simp
  | some body => simp [isError_unescape]

end SpringAudit

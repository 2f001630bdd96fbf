import SpringAudit.Java.UnicodeEscape
import SpringAudit.Proofs.Source.Escape

/-!
# When the escapes of a source text cannot be expanded

The four characters of an escape are read as an integer in base sixteen, signs
and blanks included, so they can denote a negative number, which is the number
of no character.  `EscapeNamesNothing` describes the texts in which reading comes
to such an escape; `expandUnicodeEscapes_eq_abandoned_iff` shows that these are
the texts on which the expansion stops without a description.  An escape before
it that is no integer at all has its own description and hides what follows.
-/

namespace SpringAudit.Java

/-- The characters of an escape denote a code point. -/
def Denotes (taken : Text) (c : CodePoint) : Prop :=
  Text.toIntInBase? 16 taken = some (Int.ofNat c.toNat)

/-- The characters of an escape are an integer but the number of no code point. -/
def DenotesNothing (taken : Text) : Prop :=
  ∃ n, Text.toIntInBase? 16 taken = some n ∧ ∀ c : CodePoint, n ≠ Int.ofNat c.toNat

/-- The characters of an escape, given what follows its first letter. -/
def escapeDigits (t : Text) : Text :=
  (t.dropWhile isMarkerLetter).take 4

/-- What follows an escape, given what follows its first letter. -/
def afterEscapeDigits (t : Text) : Text :=
  (t.dropWhile isMarkerLetter).drop 4

/-- A text in which reading comes to an escape that denotes an integer but no code point.  A
backslash protects the character after it unless that is the letter of an escape. -/
inductive EscapeNamesNothing : Text → Prop where
  | here {rest : Text} (hDigits : DenotesNothing (escapeDigits rest)) :
      EscapeNamesNothing ('\\' :: 'u' :: rest)
  | afterEscape {rest : Text} {c : CodePoint} (hDigits : Denotes (escapeDigits rest) c)
      (hRest : EscapeNamesNothing (afterEscapeDigits rest)) :
      EscapeNamesNothing ('\\' :: 'u' :: rest)
  | afterProtected {c : CodePoint} {rest : Text} (hLetter : c ≠ 'u')
      (hRest : EscapeNamesNothing rest) : EscapeNamesNothing ('\\' :: c :: rest)
  | afterPlain {c : CodePoint} {rest : Text} (hPlain : c ≠ '\\')
      (hRest : EscapeNamesNothing rest) : EscapeNamesNothing (c :: rest)

/-! ## The value of one escape -/

theorem ofNat?_eq_some_iff {n : Nat} {c : CodePoint} :
    CodePoint.ofNat? n = some c ↔ n = c.toNat := by
  unfold CodePoint.ofNat?
  split_ifs with hBound
  · rw [Option.some.injEq]
    constructor
    · rintro rfl
      rfl
    · rintro rfl
      rfl
  · constructor
    · intro h
      cases h
    · rintro rfl
      exact absurd c.isLt hBound

theorem escapeValue_eq_ok_iff {source taken : Text} {c : CodePoint} :
    escapeValue source taken = .ok c ↔ Denotes taken c := by
  unfold escapeValue Denotes
  cases hNumber : Text.toIntInBase? 16 taken with
  | none => simp
  | some n =>
      cases n with
      | negSucc n => simp
      | ofNat n =>
          rw [Option.some.injEq, Int.ofNat.injEq, ← ofNat?_eq_some_iff]
          cases hCode : CodePoint.ofNat? n with
          | none => simp [hCode]
          | some d => simp [hCode]

theorem escapeValue_eq_abandoned_iff {source taken : Text} :
    escapeValue source taken = .error .abandoned ↔ DenotesNothing taken := by
  unfold escapeValue DenotesNothing
  cases hNumber : Text.toIntInBase? 16 taken with
  | none => simp
  | some n =>
      cases n with
      | negSucc n => simp
      | ofNat n =>
          cases hCode : CodePoint.ofNat? n with
          | some c =>
              obtain rfl := ofNat?_eq_some_iff.1 hCode
              simp only [hCode, reduceCtorEq, false_iff]
              rintro ⟨m, hSame, hNone⟩
              exact hNone c (Option.some.inj hSame).symm
          | none =>
              simp only [hCode, true_iff]
              refine ⟨Int.ofNat n, rfl, fun c hSame => ?_⟩
              rw [ofNat?_eq_some_iff.2 (Int.ofNat.inj hSame)] at hCode
              cases hCode

/-! ## The reader -/

/-- What goes wrong at or after an escape with given characters. -/
def EscapeStops (taken rest : Text) : Prop :=
  DenotesNothing taken ∨ ∃ c, Denotes taken c ∧ EscapeNamesNothing rest

/-- The empty text is no integer. -/
theorem not_escapeStops_nil (rest : Text) : ¬ EscapeStops [] rest := by
  have hNone : Text.toIntInBase? 16 [] = none := rfl
  rintro (⟨n, hNumber, -⟩ | ⟨c, hNumber, -⟩)
  · rw [hNone] at hNumber
    cases hNumber
  · rw [Denotes, hNone] at hNumber
    cases hNumber

theorem not_escapeNamesNothing_nil : ¬ EscapeNamesNothing [] := by
  intro h
  cases h

theorem not_escapeNamesNothing_backslash : ¬ EscapeNamesNothing ['\\'] := by
  intro h
  cases h with
  | afterPlain hPlain _ => exact hPlain rfl

theorem escapeNamesNothing_plain_iff {c : CodePoint} {rest : Text} (hPlain : c ≠ '\\') :
    EscapeNamesNothing (c :: rest) ↔ EscapeNamesNothing rest := by
  constructor
  · intro h
    cases h with
    | here => exact absurd rfl hPlain
    | afterEscape => exact absurd rfl hPlain
    | afterProtected => exact absurd rfl hPlain
    | afterPlain _ hRest => exact hRest
  · exact .afterPlain hPlain

theorem escapeNamesNothing_protected_iff {c : CodePoint} {rest : Text} (hLetter : c ≠ 'u') :
    EscapeNamesNothing ('\\' :: c :: rest) ↔ EscapeNamesNothing rest := by
  constructor
  · intro h
    cases h with
    | here => exact absurd rfl hLetter
    | afterEscape => exact absurd rfl hLetter
    | afterProtected _ hRest => exact hRest
    | afterPlain hPlain => exact absurd rfl hPlain
  · exact .afterProtected hLetter

theorem escapeNamesNothing_unicode_iff {rest : Text} :
    EscapeNamesNothing ('\\' :: 'u' :: rest) ↔
      EscapeStops (escapeDigits rest) (afterEscapeDigits rest) := by
  constructor
  · intro h
    cases h with
    | here hDigits => exact .inl hDigits
    | afterEscape hDigits hRest => exact .inr ⟨_, hDigits, hRest⟩
    | afterProtected hLetter => exact absurd rfl hLetter
    | afterPlain hPlain => exact absurd rfl hPlain
  · rintro (hDigits | ⟨c, hDigits, hRest⟩)
    · exact .here hDigits
    · exact .afterEscape hDigits hRest

namespace EscapeState

/-- What goes wrong in the text that follows, seen from a state of the reader. -/
def NamesNothing : EscapeState → Text → Prop
  | .plain, t => EscapeNamesNothing t
  | .backslash, t => EscapeNamesNothing ('\\' :: t)
  | .marker _, t => EscapeStops (escapeDigits t) (afterEscapeDigits t)
  | .digits taken, t =>
    EscapeStops (taken ++ t.take (4 - taken.length)) (t.drop (4 - taken.length))

/-- Fewer than four characters of an escape are taken. -/
def Open : EscapeState → Prop
  | .digits taken => taken.length < 4
  | _ => True

/-- A character moves from the text to those that are taken. -/
theorem namesNothing_digits_cons {taken rest : Text} {c : CodePoint} (h : (digits taken).Open) :
    (digits taken).NamesNothing (c :: rest) ↔ (digits (taken ++ [c])).NamesNothing rest := by
  have hOpen : taken.length < 4 := h
  have hLeft : 4 - taken.length = 4 - (taken ++ [c]).length + 1 := by
    rw [List.length_append, List.length_singleton]
    omega
  rw [NamesNothing, NamesNothing, hLeft, List.take_succ_cons, List.drop_succ_cons,
    List.append_assoc, List.singleton_append]

/-- When four characters are taken, nothing of the text belongs to the escape. -/
theorem namesNothing_digits_full {taken rest : Text} (h : taken.length = 4) :
    (digits taken).NamesNothing rest ↔ EscapeStops taken rest := by
  rw [NamesNothing, h, Nat.sub_self, List.take_zero, List.append_nil, List.drop_zero]

end EscapeState

/-- The value of an escape and what follows it stop where one of them does. -/
theorem escapeStops_iff {source taken rest : Text} {more : CodePoint → Except SourceFailure Text}
    (hMore : ∀ c, more c = .error .abandoned ↔ EscapeNamesNothing rest) :
    (escapeValue source taken >>= more) = .error .abandoned ↔ EscapeStops taken rest := by
  rw [bind_eq_error_iff, escapeValue_eq_abandoned_iff, EscapeStops]
  simp only [escapeValue_eq_ok_iff, hMore]

/-- The reader stops without a description exactly on what goes wrong from where it stands. -/
theorem expandFrom_eq_abandoned_iff (source t sinceLast : Text) (state : EscapeState)
    (hOpen : state.Open) :
    expandFrom source state sinceLast t = .error .abandoned ↔ state.NamesNothing t := by
  -- `NamesNothing` is the invariant: each state adds what it has seen back to the text.
  induction t generalizing state sinceLast with
  | nil =>
      cases state with
      | plain => simp [expandFrom, EscapeState.NamesNothing, not_escapeNamesNothing_nil]
      | backslash =>
          simp [expandFrom, EscapeState.NamesNothing, not_escapeNamesNothing_backslash]
      | marker letters =>
          simp [expandFrom, EscapeState.NamesNothing, escapeDigits, not_escapeStops_nil]
      | digits taken =>
          rw [expandFrom, EscapeState.NamesNothing, List.take_nil, List.append_nil,
            List.drop_nil]
          refine escapeStops_iff fun c => ?_
          simp [pure, Except.pure, not_escapeNamesNothing_nil]
  | cons c rest ih =>
      cases state with
      | plain =>
          by_cases hBackslash : c = '\\'
          · subst hBackslash
            rw [expandFrom, if_pos rfl]
            exact ih sinceLast .backslash trivial
          · rw [expandFrom, if_neg hBackslash, EscapeState.NamesNothing,
              escapeNamesNothing_plain_iff hBackslash]
            exact ih (c :: sinceLast) .plain trivial
      | backslash =>
          by_cases hLetter : c = 'u'
          · subst hLetter
            rw [expandFrom, if_pos rfl, EscapeState.NamesNothing,
              escapeNamesNothing_unicode_iff]
            exact ih sinceLast (.marker 1) trivial
          · rw [expandFrom, if_neg hLetter, EscapeState.NamesNothing,
              escapeNamesNothing_protected_iff hLetter]
            exact ih _ .plain trivial
      | marker letters =>
          by_cases hLetter : c = 'u'
          · subst hLetter
            rw [expandFrom, if_pos rfl]
            exact ih sinceLast (.marker (letters + 1)) trivial
          · have hNoLetter : isMarkerLetter c = false := by simpa [isMarkerLetter] using hLetter
            have hDrop : (c :: rest).dropWhile isMarkerLetter = c :: rest := by
              simp [hNoLetter]
            rw [expandFrom, if_neg hLetter, EscapeState.NamesNothing, escapeDigits,
              afterEscapeDigits, hDrop]
            exact ih sinceLast (.digits [c]) (show 1 < 4 by decide)
      | digits taken =>
          have hLength : (taken ++ [c]).length = taken.length + 1 := List.length_append
          rw [expandFrom, EscapeState.namesNothing_digits_cons hOpen]
          by_cases hMore : taken.length < 3
          · have hStillOpen : (taken ++ [c]).length < 4 := by omega
            rw [if_pos hMore]
            exact ih sinceLast (.digits (taken ++ [c])) hStillOpen
          · have hTaken : taken.length < 4 := hOpen
            have hFull : (taken ++ [c]).length = 4 := by omega
            rw [if_neg hMore, EscapeState.namesNothing_digits_full hFull]
            -- The value is due, and behind it the state is plain again.
            refine escapeStops_iff fun value => ?_
            rw [bind_pure_eq_error_iff]
            exact ih [] .plain trivial

/-- The expansion stops without a description exactly if reading comes to an escape that
denotes an integer but no code point. -/
theorem expandUnicodeEscapes_eq_abandoned_iff {source : Text} :
    expandUnicodeEscapes source = .error .abandoned ↔ EscapeNamesNothing source :=
  expandFrom_eq_abandoned_iff source source [] .plain trivial

end SpringAudit.Java

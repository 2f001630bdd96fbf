import SpringAudit.Proofs.Source.Escape
import SpringAudit.Proofs.Text.Numeral

/-!
# String literals and the grammar of escapes

`LiteralBody` is the grammar of what stands between the marks of a string literal, with
the text that it stands for: it is read once, from left to right, and an escape of octal
digits takes as many as it may.  How many these are depends on the first one, and here
the reader of literals departs from the grammar.  It takes three digits behind any first
one, also where only two belong to the escape (`OverlongOctal`).  Everywhere else it
returns what the grammar says, and it never fails on such a literal
(`stringValue?_of_literalBody`).

Text blocks are not covered.
-/

namespace SpringAudit

/-! ## The grammar -/

/-- The characters that may follow a backslash for themselves, with their meanings. -/
def characterEscapes : List (CodePoint × CodePoint) :=
  [('b', '\x08'), ('t', '\t'), ('n', '\n'), ('f', '\x0c'), ('r', '\r'), ('s', ' '),
    ('"', '"'), ('\'', '\''), ('\\', '\\')]

/-- A character that may stand in a string literal without a backslash. -/
def IsLiteralCharacter (c : CodePoint) : Prop :=
  c ≠ '"' ∧ c ≠ '\\' ∧ c ≠ '\n' ∧ c ≠ '\r'

instance (c : CodePoint) : Decidable (IsLiteralCharacter c) :=
  inferInstanceAs (Decidable (c ≠ '"' ∧ c ≠ '\\' ∧ c ≠ '\n' ∧ c ≠ '\r'))

/-- Whether a text starts with an octal digit. -/
def startsWithOctalDigit (t : Text) : Bool :=
  t.head?.any CodePoint.isOctalDigit

/-- The digits of an octal escape in front of a text: as many as there are, but not more than
the first one allows. -/
structure OctalRun (width : CodePoint → Nat) (first : CodePoint) (more rest : Text) : Prop where
  starts : first.isOctalDigit
  goesOn : ∀ c ∈ more, c.isOctalDigit
  fits : more.length + 1 ≤ width first
  longest : more.length + 1 = width first ∨ ¬ startsWithOctalDigit rest

/-- What stands between the marks of a string literal, and the text that it stands for, given
the most digits of an octal escape by its first one. -/
inductive LiteralBody (width : CodePoint → Nat) : Text → Text → Prop where
  | nil : LiteralBody width [] []
  | plain {c : CodePoint} {rest value : Text} (hPlain : IsLiteralCharacter c)
      (hRest : LiteralBody width rest value) : LiteralBody width (c :: rest) (c :: value)
  | character {c meaning : CodePoint} {rest value : Text}
      (hEscape : (c, meaning) ∈ characterEscapes) (hRest : LiteralBody width rest value) :
      LiteralBody width ('\\' :: c :: rest) (meaning :: value)
  | octal {first : CodePoint} {more rest value : Text} (hRun : OctalRun width first more rest)
      (hRest : LiteralBody width rest value) :
      LiteralBody width ('\\' :: first :: (more ++ rest))
        (CodePoint.ofNat (numeral 8 (first :: more)) :: value)
  | unicode {marks : Nat} {digits rest value : Text} (hLength : digits.length = 4)
      (hDigits : ∀ c ∈ digits, c.isHexDigit) (hRest : LiteralBody width rest value) :
      LiteralBody width ('\\' :: 'u' :: (List.replicate marks ('u' : CodePoint) ++ digits ++ rest))
        (CodePoint.ofNat (numeral 16 digits) :: value)

/-- How many digits an octal escape has at most: three only if the first one is at most `3`. -/
def octalWidth (first : CodePoint) : Nat :=
  if first ≤ '3' then 3 else 2

/-- How many digits the reader takes at most, whatever the first one is. -/
def octalWidthRead (_ : CodePoint) : Nat := 3

/-- A body with an octal escape that starts above `3` and has two more octal digits behind it.
What precedes it is read in pieces of a backslash with the character after it, or of another
character alone. -/
inductive OverlongOctal : Text → Prop where
  | here {first second third : CodePoint} {rest : Text} (hFirst : '3' < first)
      (hDigits : ∀ c ∈ [first, second, third], c.isOctalDigit) :
      OverlongOctal ('\\' :: first :: second :: third :: rest)
  | afterEscape {c : CodePoint} {rest : Text} (hRest : OverlongOctal rest) :
      OverlongOctal ('\\' :: c :: rest)
  | afterPlain {c : CodePoint} {rest : Text} (hPlain : c ≠ '\\') (hRest : OverlongOctal rest) :
      OverlongOctal (c :: rest)

/-- The spelling of the string literal with a given body. -/
def quotedBody (body : Text) : Text :=
  ('"' : CodePoint) :: (body ++ [('"' : CodePoint)])

/-! ## Reading one piece -/

/-- A character escape is read for its meaning, and no other kind of escape starts like it. -/
theorem characterEscapes_spec {c meaning : CodePoint} (h : (c, meaning) ∈ characterEscapes) :
    escapedCharacter c = meaning ∧ c ≠ 'u' ∧ c.isOctalDigit = false := by
  have hAll : ∀ p ∈ characterEscapes,
      escapedCharacter p.1 = p.2 ∧ p.1 ≠ 'u' ∧ p.1.isOctalDigit = false := by
    decide
  exact hAll (c, meaning) h

/-- The value of an octal digit is its distance from zero. -/
theorem hexValue?_of_isOctalDigit {c : CodePoint} (h : c.isOctalDigit = true) :
    c.hexValue? = some (c.toNat - 0x30) := by
  simp only [CodePoint.isOctalDigit, Bool.and_eq_true, decide_eq_true_eq] at h
  rw [CodePoint.hexValue?, if_pos (by omega)]

/-- What ends an octal escape is read anew. -/
theorem unescapeFrom_octal_end {digits value : Nat} {rest : Text}
    (hEnd : digits = 3 ∨ ¬ startsWithOctalDigit rest) :
    unescapeFrom (.octal digits value) rest =
      (unescapeFrom .plain rest).map (CodePoint.ofNat value :: ·) := by
  cases rest with
  | nil => rfl
  | cons c rest =>
      have hStop : ¬ (c.isOctalDigit ∧ digits < 3) := by
        rintro ⟨hOctal, hFew⟩
        rcases hEnd with rfl | hNoDigit
        · omega
        · exact hNoDigit hOctal
      by_cases hBackslash : c = '\\'
      · simp only [unescapeFrom, if_neg hStop, if_pos hBackslash]
      · simp only [unescapeFrom, if_neg hStop, if_neg hBackslash]
        cases unescapeFrom .plain rest <;> rfl

/-- The digits of an octal escape are read up to the third. -/
theorem unescapeFrom_octal {digits value : Nat} {more rest : Text}
    (hMore : ∀ c ∈ more, c.isOctalDigit) (hFits : digits + more.length ≤ 3)
    (hEnd : digits + more.length = 3 ∨ ¬ startsWithOctalDigit rest) :
    unescapeFrom (.octal digits value) (more ++ rest) =
      (unescapeFrom .plain rest).map (CodePoint.ofNat (numeralFrom 8 value more) :: ·) := by
  induction more generalizing digits value with
  | nil => exact unescapeFrom_octal_end hEnd
  | cons c more ih =>
      have hOctal : c.isOctalDigit = true := hMore c List.mem_cons_self
      rw [List.length_cons] at hFits hEnd
      rw [List.cons_append, unescapeFrom, if_pos ⟨hOctal, by omega⟩,
        ih (fun d hMem => hMore d (List.mem_cons_of_mem c hMem)) (by omega)
          (hEnd.imp_left fun h => by omega)]
      rw [numeralFrom, numeralFrom, List.foldl_cons, hexValue?_of_isOctalDigit hOctal,
        Option.getD_some]

/-- The four digits of a Unicode escape are read after any number of its letters. -/
theorem unescapeFrom_unicode {digits value : Nat} {more rest : Text}
    (hMore : ∀ c ∈ more, c.isHexDigit) (hSome : more ≠ []) (hLength : digits + more.length = 4) :
    unescapeFrom (.unicode digits value) (more ++ rest) =
      (unescapeFrom .plain rest).map (CodePoint.ofNat (numeralFrom 16 value more) :: ·) := by
  induction more generalizing digits value with
  | nil => exact absurd rfl hSome
  | cons c more ih =>
      obtain ⟨digit, hDigit⟩ := Option.isSome_iff_exists.1 (hMore c List.mem_cons_self)
      rw [List.length_cons] at hLength
      rw [List.cons_append, unescapeFrom]
      simp only [hDigit]
      rw [numeralFrom, List.foldl_cons, hDigit, Option.getD_some]
      cases more with
      | nil =>
          rw [List.length_nil] at hLength
          rw [if_neg (by omega)]
          rfl
      | cons d more =>
          rw [List.length_cons] at hLength
          rw [if_pos (by omega)]
          exact ih (fun e hMem => hMore e (List.mem_cons_of_mem c hMem)) (List.cons_ne_nil _ _)
            (by rw [List.length_cons]; omega)

theorem unescapeFrom_marker {marks : Nat} {digits rest : Text}
    (hDigits : ∀ c ∈ digits, c.isHexDigit) (hLength : digits.length = 4) :
    unescapeFrom .marker (List.replicate marks ('u' : CodePoint) ++ digits ++ rest) =
      (unescapeFrom .plain rest).map (CodePoint.ofNat (numeral 16 digits) :: ·) := by
  induction marks with
  | zero =>
      cases digits with
      | nil => simp at hLength
      | cons c digits =>
          obtain ⟨digit, hDigit⟩ := Option.isSome_iff_exists.1 (hDigits c List.mem_cons_self)
          have hLetter : c ≠ 'u' := by
            simpa [isMarkerLetter] using (ne_of_hexValue? hDigit).2
          rw [List.length_cons] at hLength
          rw [List.replicate_zero, List.nil_append, List.cons_append, unescapeFrom,
            if_neg hLetter]
          simp only [hDigit]
          rw [unescapeFrom_unicode (fun d hMem => hDigits d (List.mem_cons_of_mem c hMem))
            (by rintro rfl; simp at hLength) (by omega)]
          rw [numeral, numeralFrom, numeralFrom, List.foldl_cons, hDigit, Option.getD_some,
            Nat.zero_mul, Nat.zero_add]
  | succ marks ih =>
      rw [List.replicate_succ, List.cons_append, List.cons_append, unescapeFrom, if_pos rfl, ih]

/-- The reader follows the grammar with three digits for every octal escape. -/
theorem unescape_of_literalBody {body value : Text} (h : LiteralBody octalWidthRead body value) :
    unescape body = .ok value := by
  unfold unescape
  induction h with
  | nil => rfl
  | plain hPlain _ ih => rw [unescapeFrom, if_neg hPlain.2.1, ih, Except.map]
  | character hEscape _ ih =>
      obtain ⟨hMeaning, hLetter, hOctal⟩ := characterEscapes_spec hEscape
      rw [unescapeFrom, if_pos rfl, unescapeFrom, if_neg hLetter, if_neg (by simp [hOctal]), ih,
        hMeaning, Except.map]
  | @octal first more rest value hRun _ ih =>
      have hLetter : first ≠ 'u' := by
        rintro rfl
        cases hRun.starts
      have hFits := hRun.fits
      have hLongest := hRun.longest
      rw [octalWidthRead] at hFits hLongest
      rw [unescapeFrom, if_pos rfl, unescapeFrom, if_neg hLetter, if_pos hRun.starts,
        unescapeFrom_octal hRun.goesOn (by omega) (hLongest.imp_left fun h => by omega), ih,
        Except.map, numeral, numeralFrom, numeralFrom, List.foldl_cons,
        hexValue?_of_isOctalDigit hRun.starts, Option.getD_some, Nat.zero_mul, Nat.zero_add]
  | unicode hLength hDigits _ ih =>
      rw [unescapeFrom, if_pos rfl, unescapeFrom, if_pos rfl,
        unescapeFrom_marker hDigits hLength, ih, Except.map]

/-! ## Where the reader departs from the grammar -/

theorem overlongOctal_plain_iff {c : CodePoint} {rest : Text} (hPlain : c ≠ '\\') :
    OverlongOctal (c :: rest) ↔ OverlongOctal rest := by
  constructor
  · intro h
    cases h with
    | here => exact absurd rfl hPlain
    | afterEscape => exact absurd rfl hPlain
    | afterPlain _ hRest => exact hRest
  · exact .afterPlain hPlain

theorem overlongOctal_append_iff {plain rest : Text} (hPlain : ∀ c ∈ plain, c ≠ '\\') :
    OverlongOctal (plain ++ rest) ↔ OverlongOctal rest := by
  induction plain with
  | nil => exact Iff.rfl
  | cons c plain ih =>
      rw [List.cons_append, overlongOctal_plain_iff (hPlain c List.mem_cons_self),
        ih fun d hMem => hPlain d (List.mem_cons_of_mem c hMem)]

theorem overlongOctal_escape_iff {c : CodePoint} {rest : Text} (hOctal : c.isOctalDigit = false) :
    OverlongOctal ('\\' :: c :: rest) ↔ OverlongOctal rest := by
  constructor
  · intro h
    cases h with
    | here hFirst hDigits => simp [hOctal] at hDigits
    | afterEscape hRest => exact hRest
    | afterPlain hPlain => exact absurd rfl hPlain
  · exact .afterEscape

theorem numeral_octal {first second third : CodePoint} (hFirst : first.isOctalDigit = true)
    (hSecond : second.isOctalDigit = true) (hThird : third.isOctalDigit = true) :
    numeral 8 [first, second] = (first.toNat - 0x30) * 8 + (second.toNat - 0x30) ∧
      numeral 8 [first, second, third] =
        ((first.toNat - 0x30) * 8 + (second.toNat - 0x30)) * 8 + (third.toNat - 0x30) := by
  simp [numeral, numeralFrom, hexValue?_of_isOctalDigit hFirst, hexValue?_of_isOctalDigit hSecond,
    hexValue?_of_isOctalDigit hThird]

/-- A third digit changes the character if the first one is not zero. -/
theorem ofNat_numeral_ne {first second third : CodePoint} (hFirst : '3' < first)
    (hDigits : ∀ c ∈ [first, second, third], c.isOctalDigit) :
    CodePoint.ofNat (numeral 8 [first, second, third]) ≠
      CodePoint.ofNat (numeral 8 [first, second]) := by
  obtain ⟨hTwo, hThree⟩ := numeral_octal (hDigits first (by simp)) (hDigits second (by simp))
    (hDigits third (by simp))
  have hLow : 0x33 < first.toNat := hFirst
  have hRange (c : CodePoint) (hMem : c ∈ [first, second, third]) :
      0x30 ≤ c.toNat ∧ c.toNat ≤ 0x37 := by
    simpa [CodePoint.isOctalDigit] using hDigits c hMem
  have hRangeFirst := hRange first (by simp)
  have hRangeSecond := hRange second (by simp)
  have hRangeThird := hRange third (by simp)
  intro h
  have hNumbers := congrArg CodePoint.toNat h
  rw [CodePoint.toNat_ofNat (by omega), CodePoint.toNat_ofNat (by omega)] at hNumbers
  omega

section OctalRuns

variable {first : CodePoint} {more rest : Text}

/-- A digit above `3` lets one more digit follow, the others two. -/
theorem octalWidth_eq (first : CodePoint) :
    octalWidth first = 3 ∨ '3' < first ∧ octalWidth first = 2 := by
  by_cases hLow : first ≤ '3'
  · exact .inl (if_pos hLow)
  · exact .inr ⟨Nat.lt_of_not_le hLow, if_neg hLow⟩

theorem octalWidth_of_lt (h : '3' < first) : octalWidth first = 2 :=
  if_neg (Nat.not_le_of_lt h)

/-- Whether an octal escape has a third digit that the grammar does not give to it. -/
def LeavesThird (first : CodePoint) (more rest : Text) : Prop :=
  '3' < first ∧ more.length = 1 ∧ startsWithOctalDigit rest

/-- The digits of an octal escape are those that the reader takes, unless a third one is left. -/
theorem OctalRun.toRead (hRun : OctalRun octalWidth first more rest)
    (hThird : ¬ LeavesThird first more rest) : OctalRun octalWidthRead first more rest := by
  have hFits := hRun.fits
  refine ⟨hRun.starts, hRun.goesOn, ?_, ?_⟩
  · rw [octalWidthRead]
    rcases octalWidth_eq first with hWidth | ⟨-, hWidth⟩ <;> omega
  · rcases hRun.longest with hLength | hEnd
    · rcases octalWidth_eq first with hWidth | ⟨hHigh, hWidth⟩
      · exact .inl (hLength.trans hWidth)
      · exact .inr fun hDigit => hThird ⟨hHigh, by omega, hDigit⟩
    · exact .inr hEnd

/-- Such an escape is not overlong. -/
theorem OctalRun.overlongOctal_iff (hRun : OctalRun octalWidth first more rest)
    (hThird : ¬ LeavesThird first more rest) :
    OverlongOctal ('\\' :: first :: (more ++ rest)) ↔ OverlongOctal rest := by
  have hPlain : ∀ c ∈ more, c ≠ '\\' := fun c hMem =>
    ne_backslash_of_isOctalDigit (hRun.goesOn c hMem)
  refine Iff.trans ⟨fun h => ?_, .afterEscape⟩ (overlongOctal_append_iff hPlain)
  generalize hTail : more ++ rest = tail at h
  cases h with
  | @here _ second third rest' hFirst hDigits =>
      have hOctal : second.isOctalDigit ∧ third.isOctalDigit := by
        simpa using (List.forall_mem_cons.1 hDigits).2
      have hFits := hRun.fits
      have hLongest := hRun.longest
      rw [octalWidth_of_lt hFirst] at hFits hLongest
      -- One of the two digits behind the first one is not taken by the escape.
      match more, hTail with
      | [], hTail =>
          subst hTail
          exact absurd hOctal.1 (hLongest.resolve_left (by simp))
      | [_], hTail =>
          obtain ⟨rfl, rfl⟩ := List.cons.inj hTail
          exact absurd ⟨hFirst, rfl, hOctal.2⟩ hThird
      | _ :: _ :: _, _ =>
          simp only [List.length_cons] at hFits
          omega
  | afterEscape hRest => exact hRest
  | afterPlain hNoEscape => exact absurd rfl hNoEscape

end OctalRuns

namespace LiteralBody

variable {width : CodePoint → Nat} {body value : Text}

theorem plain_inv {c : CodePoint} {rest : Text} (h : LiteralBody width (c :: rest) value)
    (hPlain : c ≠ '\\') : ∃ value', value = c :: value' ∧ LiteralBody width rest value' := by
  cases h with
  | plain _ hRest => exact ⟨_, rfl, hRest⟩
  | character => exact absurd rfl hPlain
  | octal => exact absurd rfl hPlain
  | unicode => exact absurd rfl hPlain

/-- What the reader makes of a body: the text that it stands for, unless an octal escape is
overlong. -/
theorem exists_read (h : LiteralBody octalWidth body value) :
    ∃ read, LiteralBody octalWidthRead body read ∧ (read = value ↔ ¬ OverlongOctal body) := by
  induction h with
  | nil =>
      have hNone : ¬ OverlongOctal [] := by rintro ⟨⟩
      exact ⟨[], .nil, iff_of_true rfl hNone⟩
  | @plain c rest value hPlain _ ih =>
      obtain ⟨read, hRead, hSame⟩ := ih
      refine ⟨c :: read, .plain hPlain hRead, ?_⟩
      rw [overlongOctal_plain_iff hPlain.2.1, ← hSame, List.cons.injEq, eq_self, true_and]
  | @character c meaning rest value hEscape _ ih =>
      obtain ⟨read, hRead, hSame⟩ := ih
      refine ⟨meaning :: read, .character hEscape hRead, ?_⟩
      rw [overlongOctal_escape_iff (characterEscapes_spec hEscape).2.2, ← hSame,
        List.cons.injEq, eq_self, true_and]
  | @octal first more rest value hRun hRest ih =>
      obtain ⟨read, hRead, hSame⟩ := ih
      by_cases hLeaves : LeavesThird first more rest
      · -- The grammar reads the third digit as a character of its own.
        obtain ⟨hFirst, hLength, hThird⟩ := hLeaves
        obtain ⟨second, rfl⟩ := List.length_eq_one_iff.1 hLength
        obtain ⟨third, rest', rfl⟩ : ∃ third rest', rest = third :: rest' := by
          cases rest with
          | nil => cases hThird
          | cons third rest' => exact ⟨third, rest', rfl⟩
        have hPlain : third ≠ '\\' := ne_backslash_of_isOctalDigit hThird
        obtain ⟨value', rfl, -⟩ := hRest.plain_inv hPlain
        obtain ⟨read', rfl, hRead'⟩ := hRead.plain_inv hPlain
        have hMore : ∀ c ∈ [second, third], c.isOctalDigit := by
          simpa using ⟨hRun.goesOn second List.mem_cons_self, hThird⟩
        have hDigits : ∀ c ∈ [first, second, third], c.isOctalDigit :=
          List.forall_mem_cons.2 ⟨hRun.starts, hMore⟩
        have hRun' : OctalRun octalWidthRead first [second, third] rest' :=
          ⟨hRun.starts, hMore, Nat.le_refl 3, .inl rfl⟩
        have hBody := LiteralBody.octal hRun' hRead'
        refine ⟨_, hBody, iff_of_false ?_ (not_not.2 (.here hFirst hDigits))⟩
        intro h
        exact ofNat_numeral_ne hFirst hDigits (List.cons.inj h).1
      · refine ⟨_, .octal (hRun.toRead hLeaves) hRead, ?_⟩
        rw [hRun.overlongOctal_iff hLeaves, ← hSame, List.cons.injEq, eq_self, true_and]
  | @unicode marks digits rest value hLength hDigits _ ih =>
      obtain ⟨read, hRead, hSame⟩ := ih
      refine ⟨_, .unicode hLength hDigits hRead, ?_⟩
      have hPlain : ∀ c ∈ List.replicate marks ('u' : CodePoint) ++ digits, c ≠ '\\' := by
        intro c hMem
        rcases List.mem_append.1 hMem with hMark | hDigit
        · rw [List.eq_of_mem_replicate hMark]
          decide
        · obtain ⟨digit, hValue⟩ := Option.isSome_iff_exists.1 (hDigits c hDigit)
          exact (ne_of_hexValue? hValue).1
      rw [overlongOctal_escape_iff rfl, overlongOctal_append_iff hPlain, ← hSame, List.cons.injEq,
        eq_self, true_and]

end LiteralBody

/-! ## One reading only -/

/-- An octal escape takes one beginning of the digits behind it only. -/
theorem OctalRun.eq_nil_of_longer {width : CodePoint → Nat} {first : CodePoint}
    {more extra rest : Text} (hShort : OctalRun width first more (extra ++ rest))
    (hLong : OctalRun width first (more ++ extra) rest) : extra = [] := by
  cases extra with
  | nil => rfl
  | cons c extra =>
      have hDigit : c.isOctalDigit = true := hLong.goesOn c (by simp)
      have hFits := hLong.fits
      rcases hShort.longest with hLength | hEnd
      · simp only [List.length_append, List.length_cons] at hFits
        omega
      · exact absurd hDigit hEnd

theorem OctalRun.unique {width : CodePoint → Nat} {first : CodePoint}
    {more more' rest rest' : Text} (h : OctalRun width first more rest)
    (h' : OctalRun width first more' rest') (hSame : more ++ rest = more' ++ rest') :
    more = more' ∧ rest = rest' := by
  rcases List.append_eq_append_iff.1 hSame with ⟨extra, rfl, rfl⟩ | ⟨extra, rfl, rfl⟩
  · obtain rfl := h.eq_nil_of_longer h'
    simp
  · obtain rfl := h'.eq_nil_of_longer h
    simp

/-- The letters of a Unicode escape end where its digits begin. -/
theorem dropWhile_marks {marks : Nat} {digits rest : Text} (hLength : digits.length = 4)
    (hDigits : ∀ c ∈ digits, c.isHexDigit) :
    (List.replicate marks ('u' : CodePoint) ++ digits ++ rest).dropWhile isMarkerLetter =
      digits ++ rest := by
  induction marks with
  | zero =>
      cases digits with
      | nil => cases hLength
      | cons c digits =>
          obtain ⟨digit, hDigit⟩ := Option.isSome_iff_exists.1 (hDigits c List.mem_cons_self)
          simp [(ne_of_hexValue? hDigit).2]
  | succ marks ih =>
      rw [List.replicate_succ, List.cons_append, List.cons_append,
        List.dropWhile_cons_of_pos (by simp [isMarkerLetter]), ih]

namespace LiteralBody

variable {width : CodePoint → Nat} {value : Text}

/-- The kinds of escapes, told apart by the character after the backslash. -/
theorem escape_inv {c : CodePoint} {rest : Text}
    (h : LiteralBody width ('\\' :: c :: rest) value) :
    (∃ meaning value', (c, meaning) ∈ characterEscapes ∧ LiteralBody width rest value' ∧
      value = meaning :: value') ∨
    (∃ more rest' value', OctalRun width c more rest' ∧ LiteralBody width rest' value' ∧
      rest = more ++ rest' ∧ value = CodePoint.ofNat (numeral 8 (c :: more)) :: value') ∨
    c = 'u' ∧ ∃ marks digits rest' value', digits.length = 4 ∧
      (∀ d ∈ digits, d.isHexDigit) ∧ LiteralBody width rest' value' ∧
      rest = List.replicate marks ('u' : CodePoint) ++ digits ++ rest' ∧
      value = CodePoint.ofNat (numeral 16 digits) :: value' := by
  cases h with
  | plain hPlain => exact absurd rfl hPlain.2.1
  | character hEscape hRest => exact .inl ⟨_, _, hEscape, hRest, rfl⟩
  | octal hRun hRest => exact .inr (.inl ⟨_, _, _, hRun, hRest, rfl, rfl⟩)
  | unicode hLength hDigits hRest =>
      exact .inr (.inr ⟨rfl, _, _, _, _, hLength, hDigits, hRest, rfl, rfl⟩)

/-- A body stands for one text only. -/
theorem unique {body other : Text} (h : LiteralBody width body value)
    (hOther : LiteralBody width body other) : other = value := by
  induction h generalizing other with
  | nil =>
      cases hOther
      rfl
  | plain hPlain _ ih =>
      obtain ⟨value', rfl, hRest⟩ := hOther.plain_inv hPlain.2.1
      rw [ih hRest]
  | character hEscape _ ih =>
      obtain ⟨hMeaning, hLetter, hOctal⟩ := characterEscapes_spec hEscape
      rcases hOther.escape_inv with ⟨meaning, value', hEscape', hRest, rfl⟩ |
        ⟨more, rest', value', hRun, -⟩ | ⟨hMark, -⟩
      · rw [ih hRest, ← hMeaning, (characterEscapes_spec hEscape').1]
      · exact absurd hRun.starts (by simp [hOctal])
      · exact absurd hMark hLetter
  | octal hRun _ ih =>
      rcases hOther.escape_inv with ⟨meaning, value', hEscape', -⟩ |
        ⟨more, rest', value', hRun', hRest, hSame, rfl⟩ | ⟨rfl, -⟩
      · exact absurd hRun.starts (by simp [(characterEscapes_spec hEscape').2.2])
      · obtain ⟨rfl, rfl⟩ := hRun.unique hRun' hSame
        rw [ih hRest]
      · cases hRun.starts
  | unicode hLength hDigits _ ih =>
      rcases hOther.escape_inv with ⟨meaning, value', hEscape', -⟩ |
        ⟨more, rest', value', hRun, -⟩ |
        ⟨-, marks, digits, rest', value', hLength', hDigits', hRest, hSame, rfl⟩
      · exact absurd rfl (characterEscapes_spec hEscape').2.1
      · cases hRun.starts
      · have hDrop := congrArg (List.dropWhile isMarkerLetter) hSame
        rw [dropWhile_marks hLength hDigits, dropWhile_marks hLength' hDigits'] at hDrop
        obtain ⟨rfl, rfl⟩ := List.append_inj hDrop (hLength.trans hLength'.symm)
        rw [ih hRest]

/-- No body starts with the mark of the literal. -/
theorem head_ne_mark {c : CodePoint} {rest : Text} (h : LiteralBody width (c :: rest) value) :
    c ≠ '"' := by
  cases h with
  | plain hPlain => exact hPlain.1
  | character => decide
  | octal => decide
  | unicode => decide

end LiteralBody

/-! ## Literals as they are spelled -/

/-- Nothing between the marks of a string literal makes it a text block. -/
theorem LiteralBody.not_textBlock {width : CodePoint → Nat} {body value : Text}
    (h : LiteralBody width body value) :
    (quotedBody body).startsWith "\"\"\"" = false := by
  cases body with
  | nil => decide
  | cons c rest =>
      have hMark : (('"' : CodePoint) == c) = false := beq_false_of_ne h.head_ne_mark.symm
      simp [quotedBody, Text.startsWith, Text.ofString, List.isPrefixOf, hMark]

/-- What stands between the marks of a string literal. -/
theorem LiteralBody.literalBody?_quotedBody {width : CodePoint → Nat} {body value : Text}
    (h : LiteralBody width body value) : literalBody? (quotedBody body) = some body := by
  have hMarks : 2 ≤ (quotedBody body).length ∧ (quotedBody body).startsWith "\"" ∧
      (quotedBody body).endsWith "\"" := by
    refine ⟨by simp [quotedBody], rfl, List.isSuffixOf_iff_suffix.2 ⟨'"' :: body, rfl⟩⟩
  rw [literalBody?, if_neg (by simp [h.not_textBlock]), if_pos hMarks]
  simp [withoutEnds, quotedBody]

/-- The value of a string literal.  It is no text block, its body stands for one text only, and
the reader returns a text without failing.  This is what the grammar says with three digits for
every octal escape, so it is the right one unless an octal escape is overlong. -/
theorem stringValue?_of_literalBody {body value : Text}
    (h : LiteralBody octalWidth body value) :
    (quotedBody body).startsWith "\"\"\"" = false ∧
    (∀ other, LiteralBody octalWidth body other → other = value) ∧
    ∃ read, stringValue? (quotedBody body) = .ok (some read) ∧
      LiteralBody octalWidthRead body read ∧ (read = value ↔ ¬ OverlongOctal body) := by
  refine ⟨h.not_textBlock, fun other => h.unique, ?_⟩
  obtain ⟨read, hRead, hSame⟩ := h.exists_read
  refine ⟨read, ?_, hRead, hSame⟩
  rw [stringValue?_eq, h.literalBody?_quotedBody]
  simp only
  rw [unescape_of_literalBody hRead]
  rfl

/-- A body with a backslash for itself before a letter `u`, a Unicode escape with two letters,
and an octal escape that ends before a fourth digit. -/
theorem literalBody_escapes : LiteralBody octalWidth "\\\\u\\uu0041\\1234" "\\uAS4" := by
  have hLast : LiteralBody octalWidth "4" "4" := .plain (by decide) .nil
  have hOctal : LiteralBody octalWidth "\\1234" "S4" :=
    .octal (show OctalRun octalWidth '1' "23" "4" from
      ⟨by decide, by decide, by decide, .inl (by decide)⟩) hLast
  have hUnicode : LiteralBody octalWidth "\\uu0041\\1234" "AS4" :=
    @LiteralBody.unicode _ 1 "0041" _ _ (by decide) (by decide) hOctal
  exact .character (by decide) (.plain (by decide) hUnicode)

/-- The reader returns what this body stands for, which has no overlong escape. -/
theorem stringValue?_escapes :
    stringValue? (quotedBody "\\\\u\\uu0041\\1234") = .ok (some "\\uAS4") ∧
      ¬ OverlongOctal "\\\\u\\uu0041\\1234" := by
  have hEvaluated : stringValue? (quotedBody "\\\\u\\uu0041\\1234") = .ok (some "\\uAS4") := rfl
  obtain ⟨-, -, read, hValue, -, hSame⟩ := stringValue?_of_literalBody literalBody_escapes
  rw [hEvaluated, Except.ok.injEq, Option.some.injEq] at hValue
  exact ⟨hEvaluated, hSame.1 hValue.symm⟩

/-- The reader takes three digits for an octal escape that has two. -/
theorem stringValue?_overlongOctal :
    LiteralBody octalWidth "\\400" " 0" ∧
      stringValue? (quotedBody "\\400") ≠ .ok (some " 0") := by
  constructor
  · exact .octal (show OctalRun octalWidth '4' "0" "0" from
      ⟨by decide, by decide, by decide, .inl (by decide)⟩) (.plain (by decide) .nil)
  · have hEvaluated : stringValue? (quotedBody "\\400") = .ok (some [CodePoint.ofNat 0x100]) := rfl
    rw [hEvaluated, Ne, Except.ok.injEq, Option.some.injEq]
    decide

end SpringAudit

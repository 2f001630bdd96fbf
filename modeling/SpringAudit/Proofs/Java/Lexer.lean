import Mathlib.Data.List.TakeWhile
import Mathlib.Tactic.SplitIfs
import SpringAudit.Java.Lexer
import SpringAudit.Proofs.Text.Basic
import SpringAudit.Proofs.Traversal

/-!
# What the lexer takes and where it stops

Every step of the lexer takes at least one character, so it is never cut short
by its bound on the number of steps (`tokensFrom_eq_error_iff`).  A step reports
each failure with a place except one: a number for which the text ends too
early (`nextToken_eq_abandoned_iff`).  The error that shows what follows the last
token always finds such a character, because the last token ends before the
place where reading stands (`Cursor.WellPlaced`).
-/

namespace SpringAudit.Java

/-! ## The lengths of pieces -/

theorem length_takeWhile_pos {α : Type} {p : α → Bool} {a : α} (rest : List α) (h : p a = true) :
    0 < ((a :: rest).takeWhile p).length := by
  rw [List.takeWhile_cons_of_pos h, List.length_cons]
  exact Nat.succ_pos _

/-- A line takes at least its end. -/
theorem lineLength_pos {t : Text} (h : t ≠ []) : 0 < lineLength t := by
  simp only [lineLength]
  split_ifs with hEnd
  · rw [List.isEmpty_iff, List.drop_eq_nil_iff] at hEnd
    exact lt_of_lt_of_le (List.length_pos_iff.2 h) hEnd
  · exact Nat.succ_pos _

/-- A digit sequence that starts with a digit has a length. -/
theorem digitsLength_pos {isDigit : CodePoint → Bool} {c : CodePoint} {rest : Text} {count : Nat}
    (hDigit : isDigit c = true) (hUnderscore : c ≠ '_')
    (h : digitsLength isDigit (c :: rest) = .ok count) : 0 < count := by
  rw [digitsLength, if_neg (by simp)] at h
  obtain rfl := Except.ok.inj h
  have hMem : c ∈ ((c :: rest).takeWhile fun c : CodePoint => isDigit c || c = '_').reverse := by
    rw [List.takeWhile_cons_of_pos (by simp [hDigit])]
    simp
  refine Nat.add_pos_left (List.length_pos_iff.2 fun hNil => ?_) _
  have hAll := List.dropWhile_eq_nil_iff.1 hNil c hMem
  exact hUnderscore (by simpa using hAll)

/-- A decimal number is at least as long as its digits and its fraction together. -/
theorem decimalLength_eq_ok {t : Text} {count : Nat} (h : decimalLength t = .ok count) :
    ∃ whole fraction, digitsLength CodePoint.isAsciiDigit t = .ok whole ∧
      fractionLength CodePoint.isAsciiDigit (t.drop whole) = .ok fraction ∧
      whole + fraction ≤ count := by
  obtain ⟨whole, hWhole, h⟩ := bind_eq_ok_iff.1 h
  obtain ⟨fraction, hFraction, h⟩ := bind_eq_ok_iff.1 h
  refine ⟨whole, fraction, hWhole, hFraction, ?_⟩
  dsimp only at h
  split_ifs at h with hExponent
  · obtain ⟨exponent, -, h⟩ := bind_eq_ok_iff.1 h
    obtain rfl := Except.ok.inj h
    omega
  · obtain rfl := Except.ok.inj h
    omega

theorem decimalLength_pos_of_digit {c : CodePoint} {rest : Text} {count : Nat}
    (hDigit : c.isAsciiDigit = true) (h : decimalLength (c :: rest) = .ok count) :
    0 < count := by
  have hUnderscore : c ≠ '_' := by
    rintro rfl
    cases hDigit
  obtain ⟨whole, fraction, hWhole, -, hCount⟩ := decimalLength_eq_ok h
  exact lt_of_lt_of_le (Nat.add_pos_left (digitsLength_pos hDigit hUnderscore hWhole) _) hCount

/-- A number that starts with a point has no digits before it, but the point counts. -/
theorem decimalLength_pos_of_point {rest : Text} {count : Nat}
    (h : decimalLength ('.' :: rest) = .ok count) : 0 < count := by
  obtain ⟨whole, fraction, hWhole, hFraction, hCount⟩ := decimalLength_eq_ok h
  have hNone : digitsLength CodePoint.isAsciiDigit ('.' :: rest) = .ok 0 := rfl
  obtain rfl : 0 = whole := Except.ok.inj (hNone.symm.trans hWhole)
  have hPoint : startsWithAny "." ('.' :: rest) = true := rfl
  rw [List.drop_zero, fractionLength, if_pos hPoint] at hFraction
  cases hDigits : digitsLength CodePoint.isAsciiDigit (List.drop 1 ('.' :: rest)) with
  | error fault =>
      rw [hDigits] at hFraction
      cases hFraction
  | ok digits =>
      rw [hDigits] at hFraction
      obtain rfl : digits + 1 = fraction := Except.ok.inj hFraction
      omega

/-- What is added to the length of a part counts. -/
theorem pos_of_map_add {ε : Type} {x : Except ε Nat} {more count : Nat} (hMore : 0 < more)
    (h : x.map (· + more) = .ok count) : 0 < count := by
  cases x with
  | error e => cases h
  | ok part =>
      obtain rfl : part + more = count := Except.ok.inj h
      omega

theorem numberLength_pos {c : CodePoint} {rest : Text} {count : Nat}
    (hDigit : c.isAsciiDigit = true) (h : numberLength (c :: rest) = .ok count) :
    0 < count := by
  unfold numberLength at h
  by_cases hZero : c = '0'
  · cases rest with
    | nil =>
        simp only [if_pos hZero] at h
        cases h
    | cons d more =>
        simp only [if_pos hZero] at h
        split_ifs at h with hHex hBinary hOctal
        · exact pos_of_map_add (by decide) h
        · exact pos_of_map_add (by decide) h
        · exact pos_of_map_add (by decide) h
        · exact decimalLength_pos_of_digit hDigit h
  · simp only [if_neg hZero] at h
    exact decimalLength_pos_of_digit hDigit h

theorem operatorAt?_pos {t operator : Text} (h : operatorAt? t = some operator) :
    0 < operator.length := by
  have hAll : ∀ o ∈ operators, 0 < o.length := by decide
  exact hAll operator (List.mem_of_find?_eq_some h)

/-! ## One step -/

namespace Cursor

/-- A step forward: some characters are taken, and the last token ends where it ended before
or where the step ends. -/
structure Advances (here next : Cursor) : Prop where
  taken : ∃ count, 0 < count ∧ next.rest = here.rest.drop count ∧
    next.position = here.position + count
  previous : next.previousEnd = here.previousEnd ∨ next.previousEnd = next.position

theorem advances_skip {here : Cursor} {count : Nat} (h : 0 < count) :
    here.Advances (here.skip count) :=
  ⟨⟨count, h, rfl, rfl⟩, .inl rfl⟩

theorem advances_token (here : Cursor) (kind : TokenKind) {count : Nat} (h : 0 < count) :
    here.Advances (here.token kind count).2 :=
  ⟨⟨count, h, rfl, rfl⟩, .inr rfl⟩

end Cursor

theorem numberToken_advances {source : Text} {here next : Cursor} {token : Option Token}
    {length : Except NumberFault Nat} (hPos : ∀ count, length = .ok count → 0 < count)
    (h : numberToken source here length = .ok (token, next)) : here.Advances next := by
  cases length with
  | ok count =>
      have hNext : here.token .literal count = (token, next) := Except.ok.inj h
      have hAdvances := Cursor.advances_token here .literal (hPos count rfl)
      rwa [hNext] at hAdvances
  | error fault =>
      cases fault with
      | textEnds => cases h
      | exponentMissing shown => cases shown <;> cases h

theorem stringToken_advances {source : Text} {here next : Cursor} {token : Option Token}
    {mark : CodePoint} {rest : Text} (h : stringToken source here mark rest = .ok (token, next)) :
    here.Advances next := by
  unfold stringToken at h
  cases hLength : stringLength mark .plain rest with
  | ok count =>
      rw [hLength] at h
      have hNext : here.token .literal (count + 1) = (token, next) := Except.ok.inj h
      have hAdvances := Cursor.advances_token here .literal (Nat.succ_pos count)
      rwa [hNext] at hAdvances
  | error fault =>
      rw [hLength] at h
      cases fault <;> cases h

/-- The spelling of an identifier: at least one character, and all may stand in identifiers. -/
structure IsName (t : Text) : Prop where
  ne_nil : t ≠ []
  isPart : ∀ c ∈ t, c.isIdentifierPart = true

theorem IsName.dot_notMem {t : Text} (h : IsName t) : ('.' : CodePoint) ∉ t :=
  fun hDot => absurd (h.isPart _ hDot) (by decide +kernel)

/-- What a step from a place with more to read can be. -/
inductive Step (source : Text) (here : Cursor)
    (result : Except SourceFailure (Option Token × Cursor)) : Prop where
  /-- Blanks or a comment. -/
  | skip {count : Nat} (hPos : 0 < count) (hResult : result = .ok (none, here.skip count))
  /-- A token whose length is known from its first characters. -/
  | token {kind : TokenKind} {count : Nat} (hPos : 0 < count)
      (hResult : result = .ok (here.token kind count))
      (hName : kind = .identifier → IsName (here.rest.take count))
  | fraction {rest : Text} (hRest : here.rest = ('.' : CodePoint) :: rest)
      (hDigit : rest.head?.any CodePoint.isAsciiDigit = true)
      (hResult : result = numberToken source here (decimalLength ('.' :: rest)))
  | number {c : CodePoint} {rest : Text} (hRest : here.rest = c :: rest)
      (hDigit : c.isAsciiDigit = true)
      (hResult : result = numberToken source here (numberLength (c :: rest)))
  | string {mark : CodePoint} {rest : Text} (hResult : result = stringToken source here mark rest)
  | unterminatedComment (hResult : result = .error (here.fail source .unterminatedComment))
  | unknownCharacter {c : CodePoint}
      (hResult : result = .error (here.failShowing source .unknownCharacter c))

/-- Every step is one of these; the cases follow the order in which the lexer tries them. -/
theorem nextToken_step (source : Text) {here : Cursor} (hRest : here.rest ≠ []) :
    Step source here (nextToken source here) := by
  obtain ⟨c, rest, hCons⟩ := List.exists_cons_of_ne_nil hRest
  unfold nextToken
  rw [hCons]
  dsimp only
  by_cases hBlank : c.isBlank = true
  · rw [if_pos hBlank]
    exact .skip (length_takeWhile_pos rest hBlank) rfl
  rw [if_neg hBlank]
  by_cases hLine : Text.startsWith (c :: rest) "//" = true
  · rw [if_pos hLine]
    exact .skip (lineLength_pos (List.cons_ne_nil c rest)) rfl
  rw [if_neg hLine]
  by_cases hComment : Text.startsWith (c :: rest) "/*" = true
  · rw [if_pos hComment]
    cases blockCommentLength? (List.drop 2 (c :: rest)) with
    | some count => exact .skip (Nat.succ_pos _) rfl
    | none => exact .unterminatedComment rfl
  rw [if_neg hComment]
  by_cases hDots : Text.startsWith (c :: rest) "..." = true
  · rw [if_pos hDots]
    exact .token (by decide) rfl nofun
  rw [if_neg hDots]
  by_cases hAt : c = '@'
  · rw [if_pos hAt]
    exact .token (by decide) rfl nofun
  rw [if_neg hAt]
  by_cases hPoint : c = '.' ∧ rest.head?.any CodePoint.isAsciiDigit = true
  · rw [if_pos hPoint]
    obtain ⟨rfl, hDigit⟩ := hPoint
    exact .fraction hCons hDigit rfl
  rw [if_neg hPoint]
  by_cases hSeparator : separators.contains c = true
  · rw [if_pos hSeparator]
    exact .token (by decide) rfl nofun
  rw [if_neg hSeparator]
  by_cases hQuote : c = '\'' ∨ c = '"'
  · rw [if_pos hQuote]
    exact .string rfl
  rw [if_neg hQuote]
  by_cases hDigit : c.isAsciiDigit = true
  · rw [if_pos hDigit]
    exact .number hCons hDigit rfl
  rw [if_neg hDigit]
  by_cases hWord : c.isIdentifierStart = true
  · rw [if_pos hWord]
    have hPart : c.isIdentifierPart = true := by
      rw [CodePoint.isIdentifierPart, hWord, Bool.true_or]
    refine .token (length_takeWhile_pos rest hPart) rfl fun _ => ?_
    rw [hCons, ← List.prefix_iff_eq_take.1 (List.takeWhile_prefix _)]
    exact ⟨List.length_pos_iff.1 (length_takeWhile_pos rest hPart), fun _ => List.mem_takeWhile_imp⟩
  rw [if_neg hWord]
  cases hOperator : operatorAt? (c :: rest) with
  | some operator => exact .token (operatorAt?_pos hOperator) rfl nofun
  | none => exact .unknownCharacter rfl

/-- Every step takes at least one character. -/
theorem nextToken_advances {source : Text} {here next : Cursor} {token : Option Token}
    (hRest : here.rest ≠ []) (h : nextToken source here = .ok (token, next)) :
    here.Advances next := by
  have hStep := nextToken_step source hRest
  rw [h] at hStep
  cases hStep with
  | skip hPos hResult =>
      rw [(Prod.mk.inj (Except.ok.inj hResult)).2]
      exact Cursor.advances_skip hPos
  | @token kind count hPos hResult hName =>
      have hAdvances := Cursor.advances_token here kind hPos
      rwa [← Except.ok.inj hResult] at hAdvances
  | fraction _ _ hResult =>
      exact numberToken_advances (fun count hCount => decimalLength_pos_of_point hCount)
        hResult.symm
  | number _ hDigit hResult =>
      exact numberToken_advances (fun count hCount => numberLength_pos hDigit hCount)
        hResult.symm
  | string hResult => exact stringToken_advances hResult.symm
  | unterminatedComment hResult => cases hResult
  | unknownCharacter hResult => cases hResult

/-- A number is a literal. -/
theorem numberToken_kind {source : Text} {here next : Cursor} {length : Except NumberFault Nat}
    {token : Token} (h : numberToken source here length = .ok (some token, next)) :
    token.kind = .literal := by
  unfold numberToken at h
  split at h
  · obtain ⟨hToken, -⟩ := Prod.mk.inj (Except.ok.inj h)
    rw [← Option.some.inj hToken]
  · cases h
  · cases h

/-- A string is a literal. -/
theorem stringToken_kind {source : Text} {here next : Cursor} {mark : CodePoint} {rest : Text}
    {token : Token} (h : stringToken source here mark rest = .ok (some token, next)) :
    token.kind = .literal := by
  unfold stringToken at h
  split at h
  · obtain ⟨hToken, -⟩ := Prod.mk.inj (Except.ok.inj h)
    rw [← Option.some.inj hToken]
  · cases h
  · cases h

/-- An identifier that is read is spelled as one. -/
theorem isName_of_nextToken {source : Text} {here next : Cursor} {token : Token}
    (hRest : here.rest ≠ []) (h : nextToken source here = .ok (some token, next))
    (hKind : token.kind = .identifier) : IsName token.text := by
  have hNotLiteral : token.kind ≠ .literal := by simp [hKind]
  have hStep := nextToken_step source hRest
  rw [h] at hStep
  cases hStep with
  | skip _ hResult => cases hResult
  | token _ hResult hName =>
      obtain ⟨hToken, -⟩ := Prod.mk.inj (Except.ok.inj hResult)
      obtain rfl := Option.some.inj hToken
      exact hName hKind
  | fraction _ _ hResult => exact absurd (numberToken_kind hResult.symm) hNotLiteral
  | number _ _ hResult => exact absurd (numberToken_kind hResult.symm) hNotLiteral
  | string hResult => exact absurd (stringToken_kind hResult.symm) hNotLiteral
  | unterminatedComment hResult => cases hResult
  | unknownCharacter hResult => cases hResult

/-! ## All steps -/

namespace Cursor

/-- The places that the lexer passes from a place on. -/
inductive Reaches (source : Text) : Cursor → Cursor → Prop where
  | here (here : Cursor) : Reaches source here here
  | after {here next there : Cursor} {token : Option Token} (hRest : here.rest ≠ [])
      (hStep : nextToken source here = .ok (token, next)) (hMore : Reaches source next there) :
      Reaches source here there

/-- Reading stands where it says it does, and the last token ended before. -/
structure WellPlaced (source : Text) (here : Cursor) : Prop where
  rest : here.rest = source.drop here.position
  previous : here.previousEnd ≤ here.position

theorem Advances.wellPlaced {source : Text} {here next : Cursor} (h : here.Advances next)
    (hPlace : here.WellPlaced source) : next.WellPlaced source := by
  obtain ⟨count, -, hRest, hPosition⟩ := h.taken
  constructor
  · rw [hRest, hPlace.rest, List.drop_drop, hPosition]
  · have hBefore := hPlace.previous
    rcases h.previous with hSame | hHere
    · omega
    · omega

theorem Advances.length_lt {here next : Cursor} (h : here.Advances next)
    (hRest : here.rest ≠ []) : next.rest.length < here.rest.length := by
  obtain ⟨count, hCount, hNext, -⟩ := h.taken
  have hLength := List.length_pos_iff.2 hRest
  rw [hNext, List.length_drop]
  omega

theorem Reaches.wellPlaced {source : Text} {here there : Cursor}
    (h : Reaches source here there) (hPlace : here.WellPlaced source) :
    there.WellPlaced source := by
  induction h with
  | here => exact hPlace
  | after hRest hStep _ ih => exact ih ((nextToken_advances hRest hStep).wellPlaced hPlace)

theorem eq_of_reaches_of_rest_eq_nil {source : Text} {here there : Cursor}
    (h : Reaches source here there) (hRest : here.rest = []) : there = here := by
  cases h with
  | here => rfl
  | after hMore => exact absurd hRest hMore

end Cursor

/-- With at least as many steps as characters the lexer fails exactly where one step fails;
the bound never ends it. -/
theorem tokensFrom_eq_error_iff {source : Text} {fuel : Nat} {here : Cursor}
    {failure : SourceFailure} (hFuel : here.rest.length ≤ fuel) :
    tokensFrom source fuel here = .error failure ↔
      ∃ there, Cursor.Reaches source here there ∧ there.rest ≠ [] ∧
        nextToken source there = .error failure := by
  -- The induction is on the bound; `nextToken_advances` keeps it above what is left.
  induction fuel generalizing here with
  | zero =>
      have hRest : here.rest = [] := List.length_eq_zero_iff.1 (Nat.le_zero.1 hFuel)
      constructor
      · intro h
        cases h
      · rintro ⟨there, hReaches, hMore, -⟩
        rw [Cursor.eq_of_reaches_of_rest_eq_nil hReaches hRest] at hMore
        exact absurd hRest hMore
  | succ fuel ih =>
      by_cases hRest : here.rest = []
      · constructor
        · intro h
          simp [tokensFrom, hRest] at h
        · rintro ⟨there, hReaches, hMore, -⟩
          rw [Cursor.eq_of_reaches_of_rest_eq_nil hReaches hRest] at hMore
          exact absurd hRest hMore
      · have hStep : tokensFrom source (fuel + 1) here =
            nextToken source here >>= fun result =>
              tokensFrom source fuel result.2 >>= fun tokens =>
                pure (result.1.toList ++ tokens) := by
          obtain ⟨c, rest, hCons⟩ := List.exists_cons_of_ne_nil hRest
          rw [tokensFrom, hCons]
        rw [hStep, bind_eq_error_iff]
        constructor
        · rintro (hHere | ⟨⟨token, next⟩, hNext, hLater⟩)
          · exact ⟨here, .here here, hRest, hHere⟩
          · have hShorter := (nextToken_advances hRest hNext).length_lt hRest
            have hTokens : tokensFrom source fuel next = .error failure := by
              rcases bind_eq_error_iff.1 hLater with hTokens | ⟨tokens, -, hPure⟩
              · exact hTokens
              · cases hPure
            obtain ⟨there, hReaches, hFails⟩ := (ih (by omega)).1 hTokens
            exact ⟨there, .after hRest hNext hReaches, hFails⟩
        · rintro ⟨there, hReaches, hMore, hFails⟩
          cases hReaches with
          | here => exact .inl hFails
          | @after _ next _ token _ hNext hReaches =>
              have hShorter := (nextToken_advances hRest hNext).length_lt hRest
              have hTokens := (ih (by omega)).2 ⟨there, hReaches, hMore, hFails⟩
              exact .inr ⟨(token, next), hNext, bind_eq_error_iff.2 (.inl hTokens)⟩

/-! ## Where a step stops without a description -/

/-- The fault of a number for which the text ends too early. -/
def NumberFault.AtEnd : NumberFault → Prop
  | .textEnds => True
  | .exponentMissing shown => shown = none

/-- A number at the start of a text for which the text ends too early. -/
inductive NumberCutOff : Text → Prop where
  | fraction {rest : Text} {fault : NumberFault}
      (hDigit : rest.head?.any CodePoint.isAsciiDigit = true)
      (hLength : decimalLength ('.' :: rest) = .error fault) (hEnd : fault.AtEnd) :
      NumberCutOff ('.' :: rest)
  | number {c : CodePoint} {rest : Text} {fault : NumberFault}
      (hDigit : c.isAsciiDigit = true) (hLength : numberLength (c :: rest) = .error fault)
      (hEnd : fault.AtEnd) : NumberCutOff (c :: rest)

theorem numberToken_eq_abandoned_iff {source : Text} {here : Cursor}
    {length : Except NumberFault Nat} :
    numberToken source here length = .error .abandoned ↔
      ∃ fault, length = .error fault ∧ fault.AtEnd := by
  cases length with
  | ok count => simp [numberToken]
  | error fault =>
      cases fault with
      | textEnds => simp [numberToken, NumberFault.AtEnd]
      | exponentMissing shown =>
          cases shown <;> simp [numberToken, NumberFault.AtEnd, Cursor.failShowing]

/-- The character after the last token exists as long as there is anything to read. -/
theorem Cursor.WellPlaced.fail_ne_abandoned {source : Text} {here : Cursor}
    (h : here.WellPlaced source) (hRest : here.rest ≠ []) (fault : LexicalFault) :
    here.fail source fault ≠ .abandoned := by
  -- The place in the message is that of the last token's end, which lies before this one.
  have hLength : here.position < source.length := by
    by_contra hBeyond
    exact hRest (h.rest.trans (List.drop_eq_nil_of_le (Nat.le_of_not_lt hBeyond)))
  have hPrevious : here.previousEnd < source.length := lt_of_le_of_lt h.previous hLength
  rw [Cursor.fail, List.getElem?_eq_getElem hPrevious]
  simp [Cursor.failShowing]

theorem stringToken_ne_abandoned {source : Text} {here : Cursor} {mark : CodePoint} {rest : Text}
    (h : here.WellPlaced source) (hRest : here.rest ≠ []) :
    stringToken source here mark rest ≠ .error .abandoned := by
  unfold stringToken
  split
  · simp
  · simpa using h.fail_ne_abandoned hRest .unterminatedString
  · simp [Cursor.failShowing]

theorem not_isBlank_of_isAsciiDigit {c : CodePoint} (h : c.isAsciiDigit = true) :
    c.isBlank = false := by
  have hRange : 0x30 ≤ c.toNat ∧ c.toNat ≤ 0x39 := by
    simpa [CodePoint.isAsciiDigit] using h
  rw [CodePoint.isBlank, Bool.eq_false_iff]
  intro hBlank
  obtain ⟨range, hMem, hLow, hHigh⟩ := CodeRanges.contains_iff.1 hBlank
  have hOutside : ∀ range ∈ blankRanges, range.2 < 0x30 ∨ 0x39 < range.1 := by decide
  have := hOutside range hMem
  omega

theorem ne_of_isAsciiDigit {c d : CodePoint} (h : c.isAsciiDigit = true)
    (hOther : d.isAsciiDigit = false) : c ≠ d := by
  rintro rfl
  rw [h] at hOther
  cases hOther

/-- At a digit nothing but a number is read. -/
theorem nextToken_of_digit {source : Text} {here : Cursor} {c : CodePoint} {rest : Text}
    (hRest : here.rest = c :: rest) (hDigit : c.isAsciiDigit = true) :
    nextToken source here = numberToken source here (numberLength (c :: rest)) := by
  -- None of the beginnings that are tried before a number is a digit.
  have hBlank := not_isBlank_of_isAsciiDigit hDigit
  have hSlash : c ≠ '/' := ne_of_isAsciiDigit hDigit rfl
  have hPoint : c ≠ '.' := ne_of_isAsciiDigit hDigit rfl
  have hAt : c ≠ '@' := ne_of_isAsciiDigit hDigit rfl
  have hSingle : c ≠ '\'' := ne_of_isAsciiDigit hDigit rfl
  have hDouble : c ≠ '"' := ne_of_isAsciiDigit hDigit rfl
  have hSeparator : separators.contains c = false := by
    have hAll : ∀ d ∈ separators, d.isAsciiDigit = false := by decide
    rw [Bool.eq_false_iff]
    intro hMem
    exact ne_of_isAsciiDigit hDigit (hAll c (List.contains_iff_mem.1 hMem)) rfl
  have hLine : Text.startsWith (c :: rest) "//" = false := startsWith_eq_false rfl hSlash
  have hComment : Text.startsWith (c :: rest) "/*" = false := startsWith_eq_false rfl hSlash
  have hDots : Text.startsWith (c :: rest) "..." = false := startsWith_eq_false rfl hPoint
  unfold nextToken
  simp only [hRest, hBlank, hLine, hComment, hDots, hAt, hPoint, hSeparator, hSingle, hDouble,
    hDigit, false_and, or_self, Bool.false_eq_true, if_false, if_true]

/-- At a point before a digit nothing but a number is read. -/
theorem nextToken_of_fraction {source : Text} {here : Cursor} {rest : Text}
    (hRest : here.rest = ('.' : CodePoint) :: rest)
    (hDigit : rest.head?.any CodePoint.isAsciiDigit = true) :
    nextToken source here = numberToken source here (decimalLength ('.' :: rest)) := by
  have hDots : Text.startsWith ('.' :: rest) "..." = false := by
    cases rest with
    | nil => cases hDigit
    | cons d more =>
        have hNe : d ≠ '.' := ne_of_isAsciiDigit hDigit rfl
        have hMore : Text.startsWith (d :: more) ".." = false := startsWith_eq_false rfl hNe
        simpa [Text.startsWith, Text.ofString] using hMore
  have hBlank : (CodePoint.ofChar '.').isBlank = false := by decide
  have hLine : Text.startsWith ('.' :: rest) "//" = false := startsWith_eq_false rfl (by decide)
  have hComment : Text.startsWith ('.' :: rest) "/*" = false :=
    startsWith_eq_false rfl (by decide)
  have hAt : (CodePoint.ofChar '.') ≠ '@' := by decide
  unfold nextToken
  simp only [hRest, hBlank, hLine, hComment, hDots, hAt, hDigit, and_self, Bool.false_eq_true,
    if_false, if_true]

/-- The only failure without a description is a number for which the text ends too early. -/
theorem nextToken_eq_abandoned_iff {source : Text} {here : Cursor}
    (hPlace : here.WellPlaced source) (hRest : here.rest ≠ []) :
    nextToken source here = .error .abandoned ↔ NumberCutOff here.rest := by
  obtain ⟨c, rest, hCons⟩ := List.exists_cons_of_ne_nil hRest
  constructor
  · intro h
    have hStep := nextToken_step source hRest
    rw [h] at hStep
    cases hStep with
    | skip _ hResult => cases hResult
    | token _ hResult _ => cases hResult
    | fraction hPoint hDigit hResult =>
        obtain ⟨fault, hLength, hEnd⟩ := numberToken_eq_abandoned_iff.1 hResult.symm
        rw [hPoint]
        exact .fraction hDigit hLength hEnd
    | number hNumber hDigit hResult =>
        obtain ⟨fault, hLength, hEnd⟩ := numberToken_eq_abandoned_iff.1 hResult.symm
        rw [hNumber]
        exact .number hDigit hLength hEnd
    | string hResult => exact absurd hResult.symm (stringToken_ne_abandoned hPlace hRest)
    | unterminatedComment hResult =>
        exact absurd (Except.error.inj hResult).symm (hPlace.fail_ne_abandoned hRest _)
    | unknownCharacter hResult => cases hResult
  · intro h
    rw [hCons] at h
    cases h with
    | fraction hDigit hLength hEnd =>
        rw [nextToken_of_fraction hCons hDigit]
        exact numberToken_eq_abandoned_iff.2 ⟨_, hLength, hEnd⟩
    | number hDigit hLength hEnd =>
        rw [nextToken_of_digit hCons hDigit]
        exact numberToken_eq_abandoned_iff.2 ⟨_, hLength, hEnd⟩

/-- All identifiers of a text are spelled as such. -/
theorem isName_of_mem_tokensFrom {source : Text} {fuel : Nat} {here : Cursor}
    {tokens : List Token} (h : tokensFrom source fuel here = .ok tokens) :
    ∀ token ∈ tokens, token.kind = .identifier → IsName token.text := by
  induction fuel generalizing here tokens with
  | zero =>
      obtain rfl := Except.ok.inj h
      simp
  | succ fuel ih =>
      rw [tokensFrom] at h
      split at h
      · obtain rfl := Except.ok.inj h
        simp
      · next hRest =>
        obtain ⟨⟨first, next⟩, hFirst, h⟩ := bind_eq_ok_iff.1 h
        obtain ⟨more, hMore, h⟩ := bind_eq_ok_iff.1 h
        obtain rfl := Except.ok.inj h
        intro token hMem hKind
        rcases List.mem_append.1 hMem with hHere | hLater
        · obtain rfl := Option.mem_toList.1 hHere
          exact isName_of_nextToken (by simp [hRest]) hFirst hKind
        · exact ih hMore token hLater hKind

/-- The start of a text. -/
def Cursor.first (source : Text) : Cursor :=
  ⟨source, 0, 1, 0⟩

/-- Tokens stop without a description exactly at a number for which the text ends too early. -/
theorem tokensFrom_eq_abandoned_iff (source : Text) :
    tokensFrom source source.length (Cursor.first source) = .error .abandoned ↔
      ∃ there, Cursor.Reaches source (Cursor.first source) there ∧ NumberCutOff there.rest := by
  have hFirst : (Cursor.first source).WellPlaced source := ⟨rfl, Nat.le_refl 0⟩
  rw [tokensFrom_eq_error_iff (Nat.le_refl source.length)]
  constructor
  · rintro ⟨there, hReaches, hRest, hStep⟩
    exact ⟨there, hReaches,
      (nextToken_eq_abandoned_iff (hReaches.wellPlaced hFirst) hRest).1 hStep⟩
  · rintro ⟨there, hReaches, hNumber⟩
    have hRest : there.rest ≠ [] := by
      intro hNil
      rw [hNil] at hNumber
      cases hNumber
    exact ⟨there, hReaches, hRest,
      (nextToken_eq_abandoned_iff (hReaches.wellPlaced hFirst) hRest).2 hNumber⟩

end SpringAudit.Java

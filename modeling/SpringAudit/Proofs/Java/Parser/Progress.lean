import SpringAudit.Java.Parser.Basic
import SpringAudit.Proofs.Traversal

/-!
# Parsers that take tokens

Repetition in a parser is bounded by the number of all tokens, and the nesting of
phrases by a multiple of it.  That these bounds are never used up needs two facts
about every parser: how many tokens it takes at least, and that going back never
passes the place where the attempt around it began.  Both are in `Reads`, where the
tokens that are left are an end of those at the place that going back may lead to.

* `Reads.bind`: the tokens that two parsers take one after another.
* `Steps.repeatSome`: a repetition in which each round takes a token does not use
  up its bound.
* `Takes.attempt`: an attempt that fails leaves no more tokens than it found.

Nothing is said here about what is made of the tokens.
-/

namespace SpringAudit.Java.Parser

variable {α β : Type}

/-- How a parser ends that starts with `start` tokens and takes at least `taken` of them, and
after which only tokens at the end of `furthest` are left, also when the attempt around it
resumes.  No bound is used up. -/
inductive Ends (taken : α → Nat) (furthest : List Token) (start : Nat) :
    Except ParseFailure (α × ParserState) → Prop where
  | ok {a : α} {after : ParserState} (hRest : after.rest.length + taken a ≤ start)
      (hLeft : after.rest <:+ furthest) (hResume : after.resume <:+ furthest) :
      Ends taken furthest start (.ok (a, after))
  | mismatch {description : Text} {resume : List Token} (hResume : resume <:+ furthest) :
      Ends taken furthest start (.error (.mismatch description resume))
  | endOfTokens : Ends taken furthest start (.error .endOfTokens)
  | openOperand : Ends taken furthest start (.error .openOperand)

/-- On fewer than `n` tokens a parser takes at least as many as its result tells. -/
def Reads (taken : α → Nat) (n : Nat) (p : Parser α) : Prop :=
  ∀ bound here furthest, here.rest.length < n → here.rest.length < bound →
    here.rest <:+ furthest → here.resume <:+ furthest →
      Ends taken furthest here.rest.length (p bound here)

/-- On fewer than `n` tokens a parser uses up no bound. -/
def Fits (n : Nat) (p : Parser α) : Prop :=
  Reads (fun _ => 0) n p

/-- On fewer than `n` tokens a parser takes a token if it succeeds. -/
def Takes (n : Nat) (p : Parser α) : Prop :=
  Reads (fun _ => 1) n p

/-- On fewer than `n` tokens a parser takes a token if it has a result. -/
def Steps (n : Nat) (p : Parser (Option α)) : Prop :=
  Reads (fun result => result.elim 0 fun _ => 1) n p

/-! ## One parser after another -/

section Sequence

variable {n m : Nat} {p : Parser α} {f : α → Parser β} {taken : α → Nat} {taken' : β → Nat}

theorem run_bind (p : Parser α) (f : α → Parser β) (bound : Nat) (here : ParserState) :
    (p >>= f) bound here = p bound here >>= fun result => f result.1 bound result.2 := rfl

theorem run_bind_eq_ok_iff {bound : Nat} {here after : ParserState} {b : β} :
    (p >>= f) bound here = .ok (b, after) ↔
      ∃ a between, p bound here = .ok (a, between) ∧ f a bound between = .ok (b, after) := by
  constructor
  · intro h
    obtain ⟨⟨a, between⟩, hFirst, hSecond⟩ := bind_eq_ok_iff.1 h
    exact ⟨a, between, hFirst, hSecond⟩
  · rintro ⟨a, between, hFirst, hSecond⟩
    exact bind_eq_ok_iff.2 ⟨(a, between), hFirst, hSecond⟩

theorem Ends.mono {fewer : α → Nat} {furthest further : List Token} {start earlier : Nat}
    {x : Except ParseFailure (α × ParserState)} (h : Ends taken furthest start x)
    (hTaken : ∀ a, start + fewer a ≤ earlier + taken a) (hFurthest : furthest <:+ further) :
    Ends fewer further earlier x := by
  cases h with
  | @ok a after hRest hLeft hResume =>
      have := hTaken a
      exact .ok (by omega) (hLeft.trans hFurthest) (hResume.trans hFurthest)
  | mismatch hResume => exact .mismatch (hResume.trans hFurthest)
  | endOfTokens => exact .endOfTokens
  | openOperand => exact .openOperand

theorem Ends.bind {x : Except ParseFailure (α × ParserState)}
    {f : α × ParserState → Except ParseFailure (β × ParserState)} {furthest : List Token}
    {start : Nat} (hFirst : Ends taken furthest start x)
    (hSecond : ∀ a after, after.rest.length + taken a ≤ start → after.rest <:+ furthest →
      after.resume <:+ furthest → Ends taken' furthest start (f (a, after))) :
    Ends taken' furthest start (x >>= f) := by
  cases hFirst with
  | ok hRest hLeft hResume => exact hSecond _ _ hRest hLeft hResume
  | mismatch hResume => exact .mismatch hResume
  | endOfTokens => exact .endOfTokens
  | openOperand => exact .openOperand

theorem Reads.mono {fewer : α → Nat} (h : Reads taken n p) (hTaken : ∀ a, fewer a ≤ taken a)
    (hLess : m ≤ n) : Reads fewer m p := by
  intro bound here furthest hShort hBound hFurthest hResume
  have hEnds := h bound here furthest (by omega) hBound hFurthest hResume
  exact hEnds.mono (fun a => Nat.add_le_add_left (hTaken a) _) (List.suffix_refl _)

/-- What the first parser has taken, the second one need not take and does not find. -/
theorem Reads.bind (hFirst : Reads taken n p)
    (hSecond : ∀ a, Reads (fun b => taken' b - taken a) (n - taken a) (f a)) :
    Reads taken' n (p >>= f) := by
  intro bound here furthest hShort hBound hFurthest hResume
  -- The second parser is measured from where the first one leaves off.
  rw [run_bind]
  have hEnds := hFirst bound here furthest hShort hBound hFurthest hResume
  refine hEnds.bind fun a after hRest hLeft hAfter => ?_
  have hEnds := hSecond a bound after furthest (by omega) (by omega) hLeft hAfter
  exact hEnds.mono (fun b => by omega) (List.suffix_refl _)

theorem Takes.mono (h : Takes n p) (hLess : m ≤ n) : Takes m p :=
  Reads.mono h (fun _ => Nat.le_refl _) hLess

theorem Takes.pred (h : Takes n p) : Takes (n - 1) p :=
  h.mono (Nat.sub_le n 1)

theorem Fits.mono (h : Fits n p) (hLess : m ≤ n) : Fits m p :=
  Reads.mono h (fun _ => Nat.le_refl _) hLess

@[grind ←] theorem Takes.fits (h : Takes n p) : Fits n p :=
  Reads.mono h (fun _ => Nat.zero_le 1) (Nat.le_refl n)

theorem Steps.fits {p : Parser (Option α)} (h : Steps n p) : Fits n p :=
  Reads.mono h (fun _ => Nat.zero_le _) (Nat.le_refl _)

@[grind ←] theorem Fits.bind (hFirst : Fits n p) (hSecond : ∀ a, Fits n (f a)) :
    Fits n (p >>= f) :=
  Reads.bind hFirst hSecond

/-- After a token has been taken, what follows finds one token less. -/
theorem Takes.bind (hFirst : Takes n p) (hSecond : ∀ a, Fits (n - 1) (f a)) :
    Takes n (p >>= f) :=
  Reads.bind hFirst hSecond

@[grind ←] theorem Takes.bindSame (hFirst : Takes n p) (hSecond : ∀ a, Fits n (f a)) :
    Takes n (p >>= f) :=
  hFirst.bind fun a => (hSecond a).mono (Nat.sub_le n 1)

theorem Fits.bindTakes (hFirst : Fits n p) (hSecond : ∀ a, Takes n (f a)) : Takes n (p >>= f) :=
  Reads.bind hFirst hSecond

theorem Steps.bindTakes {p : Parser (Option α)} {f : Option α → Parser β} (hFirst : Steps n p)
    (hSome : ∀ a, Fits (n - 1) (f (some a))) (hNone : Takes n (f none)) : Takes n (p >>= f) := by
  refine Reads.bind hFirst fun result => ?_
  cases result with
  | none => exact hNone
  | some a => exact hSome a

theorem reads_pure {a : α} (n : Nat) (hTaken : taken a = 0) :
    Reads taken n (pure a : Parser α) :=
  fun _ _ _ _ _ hFurthest hResume => .ok (by omega) hFurthest hResume

@[grind ←] theorem fits_pure (n : Nat) (a : α) : Fits n (pure a : Parser α) :=
  reads_pure n rfl

@[grind ←] theorem fits_mismatch (n : Nat) (description : Text) :
    Fits n (mismatch description : Parser α) :=
  fun _ _ _ _ _ _ hResume => .mismatch hResume

@[grind ←] theorem takes_mismatch (n : Nat) (description : Text) :
    Takes n (mismatch description : Parser α) :=
  fun _ _ _ _ _ _ hResume => .mismatch hResume

theorem discard_eq (p : Parser α) : discard p = (p >>= fun _ => pure ()) := rfl

@[grind ←] theorem Fits.discard (h : Fits n p) : Fits n (discard p) := by
  rw [discard_eq]
  exact h.bind fun _ => fits_pure n ()

@[grind ←] theorem Takes.discard (h : Takes n p) : Takes n (discard p) := by
  rw [discard_eq]
  exact Reads.bind h fun _ => fits_pure _ ()

/-- A parser that looks up the bound may rely on there being fewer tokens. -/
theorem Reads.readBound {f : Nat → Parser α}
    (h : ∀ m bound, m ≤ n → m ≤ bound → Reads taken m (f bound)) : Reads taken n (read >>= f) := by
  intro bound here furthest hShort hBound hFurthest hResume
  have hReads := h (here.rest.length + 1) bound hShort hBound
  exact hReads bound here furthest (Nat.lt_succ_self _) hBound hFurthest hResume

/-! A rule often asks what comes next and branches on the answer. -/

theorem Reads.branch {condition : Parser Bool} {q : Parser α} (hCondition : Fits n condition)
    (hThen : Reads taken n p) (hElse : Reads taken n q) :
    Reads taken n (condition >>= fun holds => if holds then p else q) := by
  refine Reads.bind hCondition fun holds => ?_
  cases holds with
  | true => exact hThen
  | false => exact hElse

theorem Fits.branch {condition : Parser Bool} {q : Parser α} (hCondition : Fits n condition)
    (hThen : Fits n p) (hElse : Fits n q) :
    Fits n (condition >>= fun holds => if holds then p else q) :=
  Reads.branch hCondition hThen hElse

theorem Takes.branch {condition : Parser Bool} {q : Parser α} (hCondition : Fits n condition)
    (hThen : Takes n p) (hElse : Takes n q) :
    Takes n (condition >>= fun holds => if holds then p else q) :=
  Reads.branch hCondition hThen hElse

/-- A result that is always there. -/
theorem Takes.some (h : Takes n p) : Steps n (p >>= fun a => pure (some a)) :=
  Reads.bind h fun _ => reads_pure _ rfl

end Sequence

/-! ## Looking ahead and taking tokens -/

section Tokens

variable {n : Nat}

@[grind ←] theorem fits_remaining (n : Nat) : Fits n remaining :=
  fun _ _ _ _ _ hFurthest hResume => .ok (Nat.le_refl _) hFurthest hResume

@[grind ←] theorem fits_read (n : Nat) : Fits n (read : Parser Nat) :=
  fun _ _ _ _ _ hFurthest hResume => .ok (Nat.le_refl _) hFurthest hResume

@[grind ←] theorem fits_peek (n : Nat) : Fits n peek :=
  (fits_remaining n).bind fun _ => fits_pure n _

@[grind ←] theorem fits_next? (n : Nat) (expected : List Expected) : Fits n (next? expected) :=
  (fits_remaining n).bind fun _ => fits_pure n _

@[grind ←] theorem fits_nextIn? (n : Nat) (spellings : List Text) : Fits n (nextIn? spellings) :=
  (fits_peek n).bind fun _ => fits_pure n _

@[grind ←] theorem fits_annotationAhead? (n : Nat) : Fits n annotationAhead? := by
  unfold annotationAhead?
  grind

@[grind ←] theorem fits_annotationTypeAhead? (n : Nat) : Fits n annotationTypeAhead? :=
  fits_next? n _

@[grind ←] theorem takes_take (n : Nat) (expected : Expected) : Takes n (take expected) := by
  intro bound here furthest hShort hBound hFurthest hResume
  obtain ⟨rest, resume⟩ := here
  cases rest with
  | nil => exact .endOfTokens
  | cons token rest =>
      change Ends _ furthest _ ((if expected.matches? token then pure token.text
        else mismatch expected.description : Parser Text) bound ⟨rest, resume⟩)
      by_cases hMatches : expected.matches? token
      · rw [if_pos hMatches]
        exact .ok (Nat.le_refl _) ((List.suffix_cons token rest).trans hFurthest) hResume
      · rw [if_neg hMatches]
        exact .mismatch hResume

@[grind ←] theorem takes_takeAny (n : Nat) : Takes n takeAny := by
  intro bound here furthest hShort hBound hFurthest hResume
  obtain ⟨rest, resume⟩ := here
  cases rest with
  | nil => exact .endOfTokens
  | cons token rest =>
      exact .ok (Nat.le_refl _) ((List.suffix_cons token rest).trans hFurthest) hResume

@[grind ←] theorem takes_identifier (n : Nat) : Takes n identifier :=
  takes_take n _

theorem skip_cons (e : Expected) (rest : List Expected) :
    skip (e :: rest) = discard (take e) >>= fun _ => skip rest := rfl

@[grind ←] theorem fits_skip (n : Nat) (expected : List Expected) : Fits n (skip expected) := by
  induction expected with
  | nil => exact fits_pure n ()
  | cons e rest ih =>
      rw [skip_cons]
      exact (takes_take n e).fits.discard.bind fun _ => ih

@[grind ←] theorem takes_skip (n : Nat) (e : Expected) (rest : List Expected) :
    Takes n (skip (e :: rest)) :=
  Reads.bind (takes_take n e).discard fun _ => fits_skip _ rest

theorem length_of_matchAll? {expected : List Expected} {tokens : List Token}
    (h : Expected.matchAll? expected tokens = true) : expected.length ≤ tokens.length := by
  induction expected generalizing tokens with
  | nil => exact Nat.zero_le _
  | cons e rest ih =>
      cases tokens with
      | nil => cases h
      | cons token tokens =>
          rw [Expected.matchAll?, Bool.and_eq_true] at h
          exact Nat.succ_le_succ (ih h.2)

/-- Tokens are taken exactly if all of them are as expected. -/
theorem reads_skip? (n : Nat) (expected : List Expected) :
    Reads (fun found => if found then expected.length else 0) n (skip? expected) := by
  intro bound here furthest hShort hBound hFurthest hResume
  change Ends _ furthest here.rest.length ((if Expected.matchAll? expected here.rest then (do
    leave ((← remaining).drop expected.length)
    return true) else return false : Parser Bool) bound here)
  by_cases hMatches : Expected.matchAll? expected here.rest
  · have hLength := length_of_matchAll? hMatches
    rw [if_pos hMatches]
    refine .ok ?_ ((List.drop_suffix _ _).trans hFurthest) hResume
    change (here.rest.drop expected.length).length + expected.length ≤ here.rest.length
    rw [List.length_drop]
    omega
  · rw [if_neg hMatches]
    exact .ok (Nat.le_refl _) hFurthest hResume

@[grind ←] theorem fits_skip? (n : Nat) (expected : List Expected) : Fits n (skip? expected) :=
  (reads_skip? n expected).mono (fun _ => Nat.zero_le _) (Nat.le_refl n)

/-- Where a token may stand: if it does, it has been taken before what follows. -/
theorem Takes.branchSkip {e : Expected} {rest : List Expected} {p q : Parser β}
    (hFound : Fits (n - 1) p) (hElse : Takes n q) :
    Takes n (skip? (e :: rest) >>= fun found => if found then p else q) := by
  refine Reads.bind (reads_skip? n _) fun found => ?_
  cases found with
  | false => exact hElse
  | true => exact Reads.mono hFound (fun _ => by simp) (Nat.sub_le_sub_left (by simp) n)

end Tokens

/-! ## Repetition -/

section Repetition

variable {n : Nat} {p : Parser α} {condition : Parser Bool} {step : Parser (Option α)}

/-- The induction is on the bound; each round leaves fewer tokens and a smaller bound. -/
theorem Steps.repeatUpTo (hStep : Steps n step) {m fuel : Nat} (hLess : m ≤ n)
    (hFuel : m ≤ fuel) : Fits m (Parser.repeatUpTo step fuel) := by
  induction fuel generalizing m with
  | zero =>
      intro bound here furthest hShort
      omega
  | succ fuel ih =>
      refine Reads.bind (Reads.mono hStep (fun _ => Nat.le_refl _) hLess) fun result => ?_
      cases result with
      | none => exact fits_pure _ []
      | some a =>
          have hMore : Fits (m - 1) (Parser.repeatUpTo step fuel) := ih (by omega) (by omega)
          exact hMore.bind fun more => fits_pure _ (a :: more)

@[grind ←] theorem Steps.repeatSome (hStep : Steps n step) : Fits n (repeatSome step) :=
  Reads.readBound fun _ _ hLess hBound => hStep.repeatUpTo hLess hBound

@[grind ←] theorem Takes.whileTrue (hPhrase : Takes n p) (hCondition : Fits n condition) :
    Fits n (whileTrue condition p) := by
  refine Steps.repeatSome (Reads.bind hCondition fun holds => ?_)
  cases holds with
  | false => exact reads_pure n rfl
  | true => exact Reads.bind hPhrase fun a => reads_pure _ rfl

theorem fits_repeatWhile {phrase : Parser Bool}
    (h : Reads (fun more => if more then 1 else 0) n phrase) : Fits n (repeatWhile phrase) := by
  refine (Steps.repeatSome (Reads.bind h fun more => ?_)).discard
  cases more with
  | false => exact reads_pure n rfl
  | true => exact reads_pure _ rfl

/-- A phrase after a token that leads to it need not take another one. -/
theorem Fits.whileSkip {e : Expected} {rest : List Expected} (hPhrase : Fits n p) :
    Fits n (Parser.whileTrue (skip? (e :: rest)) p) := by
  refine Steps.repeatSome (Reads.bind (reads_skip? n _) fun holds => ?_)
  cases holds with
  | false => exact reads_pure n rfl
  | true =>
      refine Reads.bind (hPhrase.mono (Nat.sub_le _ _)) fun a => reads_pure _ ?_
      simp

@[grind ←] theorem Takes.separated (separator : Expected) (hPhrase : Takes n p) :
    Takes n (separated separator p) := by
  refine Reads.bind hPhrase fun first => ?_
  have hMore := hPhrase.pred.whileTrue (fits_skip? _ [separator])
  exact hMore.bind fun _ => fits_pure _ _

@[grind ←] theorem Takes.separatedThrough (separator last : Expected) (hPhrase : Takes n p) :
    Takes n (separatedThrough separator last p) := by
  refine Reads.bind hPhrase fun first => ?_
  refine Fits.bind (Steps.repeatSome ?_) fun _ => fits_pure _ _
  -- A round that is not the last takes at least its phrase, whatever the separator does.
  refine Reads.bind (fits_skip? _ _) fun ends => ?_
  cases ends with
  | true => exact reads_pure _ rfl
  | false =>
      refine Reads.bind (fits_skip _ _) fun _ => ?_
      exact Reads.bind hPhrase.pred fun a => reads_pure _ rfl

@[grind ←] theorem Fits.onlyIf (hCondition : Fits n condition) (h : Fits n p) :
    Fits n (onlyIf condition p) := by
  refine hCondition.bind fun holds => ?_
  cases holds with
  | false => exact fits_pure n ()
  | true => exact h.discard

@[grind ←] theorem takes_qualifiedName (n : Nat) : Takes n qualifiedName :=
  Reads.bind ((takes_identifier n).separated ".") fun _ => fits_pure _ _

@[grind ←] theorem fits_dimensions (n : Nat) : Fits n dimensions :=
  (fits_pure n ()).whileSkip.bind fun _ => fits_pure n _

end Repetition

/-! ## Attempts -/

section Attempts

variable {n : Nat} {p : Parser α}

theorem run_mark (p : Parser α) (bound : Nat) (here : ParserState) :
    (mark >>= fun _ => p) bound here = p bound { here with resume := here.rest } := rfl

/-- An attempt begins where it would resume, so what it leaves when it fails has been there
when it began. -/
theorem Takes.attempt (h : Takes n p) : Steps n (attempt p) := by
  intro bound here furthest hShort hBound hFurthest hResume
  -- Within the attempt nothing is put back beyond its own beginning.
  have hEnds := h bound { here with resume := here.rest } here.rest hShort hBound
    (List.suffix_refl _) (List.suffix_refl _)
  unfold Parser.attempt
  rw [run_mark]
  generalize p bound { here with resume := here.rest } = x at hEnds
  cases hEnds with
  | ok hRest hLeft hAfter =>
      exact .ok hRest (hLeft.trans hFurthest) (hAfter.trans hFurthest)
  | mismatch hAfter => exact .ok hAfter.length_le (hAfter.trans hFurthest) hResume
  | endOfTokens => exact .endOfTokens
  | openOperand => exact .openOperand

end Attempts

end SpringAudit.Java.Parser

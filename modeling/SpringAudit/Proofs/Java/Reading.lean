import SpringAudit.Proofs.Java.Lexer
import SpringAudit.Proofs.Java.Parser.CompilationUnit
import SpringAudit.Proofs.Java.UnicodeEscape

/-!
# Where reading a source text stops

Reading a source text gives a syntax tree, a description of what is wrong, or
neither.  The last case is followed here through the phases of reading: an escape
that denotes no code point, a number for which the text ends too early, tokens
that end within the package or the imports, and tokens that end behind an operand.

Tokens that end elsewhere do not count: in a type declaration the end of the
tokens is a mismatch with a description (`compilationUnit_eq_endOfTokens_iff`).
Nor do the bounds of the parser, which are never used up.
-/

namespace SpringAudit.Java

namespace Parser

variable {α β : Type}

/-- A parser that never reports the end of the tokens. -/
def NeverEnds (p : Parser α) : Prop :=
  ∀ bound here, p bound here ≠ .error .endOfTokens

theorem neverEnds_pure (a : α) : NeverEnds (pure a) := by
  intro bound here h
  cases h

theorem NeverEnds.bind {p : Parser α} {f : α → Parser β} (hFirst : NeverEnds p)
    (hSecond : ∀ a, NeverEnds (f a)) : NeverEnds (p >>= f) := by
  intro bound here h
  rw [run_bind, bind_eq_error_iff] at h
  rcases h with hHere | ⟨result, -, hLater⟩
  · exact hFirst bound here hHere
  · exact hSecond result.1 bound result.2 hLater

theorem NeverEnds.repeatUpTo {step : Parser (Option α)} (hStep : NeverEnds step) (fuel : Nat) :
    NeverEnds (Parser.repeatUpTo step fuel) := by
  induction fuel with
  | zero =>
      intro bound here h
      cases h
  | succ fuel ih =>
      refine hStep.bind fun result => ?_
      cases result with
      | none => exact neverEnds_pure []
      | some a => exact ih.bind fun more => neverEnds_pure (a :: more)

theorem NeverEnds.whileTrue {condition : Parser Bool} {phrase : Parser α}
    (hCondition : NeverEnds condition) (hPhrase : NeverEnds phrase) :
    NeverEnds (Parser.whileTrue condition phrase) := by
  intro bound here
  refine NeverEnds.repeatUpTo (hCondition.bind fun holds => ?_) bound bound here
  cases holds with
  | false => exact neverEnds_pure none
  | true => exact hPhrase.bind fun a => neverEnds_pure (some a)

/-- In a type declaration the end of the tokens is a mismatch. -/
theorem neverEnds_outerDeclaration (within : Phrases) : NeverEnds (outerDeclaration within) := by
  intro bound here h
  unfold outerDeclaration at h
  dsimp only at h
  split at h
  · cases h
  · rename_i hOther
    exact hOther h

/-- The package and the imports of a source file. -/
def header (within : Phrases) : Parser (Option Text × List Import) := do
  let package ← package? within
  let imports ← Parser.whileTrue (next? ["import"]) importDeclaration
  return (package, imports)

/-- The type declarations of a source file. -/
def outerDeclarations (within : Phrases) : Parser (List (Option Declaration)) :=
  Parser.whileTrue (return (← peek).isSome) (outerDeclaration within)

theorem compilationUnit_eq (within : Phrases) :
    compilationUnit within = (do
      let head ← header within
      let declarations ← outerDeclarations within
      return ⟨head.1, head.2, declarations.filterMap id⟩) := by
  simp only [compilationUnit, header, outerDeclarations, bind_assoc, pure_bind]

theorem neverEnds_outerDeclarations (within : Phrases) :
    NeverEnds (outerDeclarations within) := by
  refine NeverEnds.whileTrue ?_ (neverEnds_outerDeclaration within)
  intro bound here h
  cases h

/-- The end of the tokens is reported only from the package and the imports. -/
theorem compilationUnit_eq_endOfTokens_iff {within : Phrases} {bound : Nat}
    {here : ParserState} :
    compilationUnit within bound here = .error .endOfTokens ↔
      header within bound here = .error .endOfTokens := by
  rw [compilationUnit_eq, run_bind, bind_eq_error_iff]
  constructor
  · rintro (hHeader | ⟨result, -, hLater⟩)
    · exact hHeader
    -- After the header only type declarations are read, and they describe the end.
    · have hRest : NeverEnds (do
          let declarations ← outerDeclarations within
          return ⟨result.1.1, result.1.2, declarations.filterMap id⟩ : Parser CompilationUnit) :=
        (neverEnds_outerDeclarations within).bind fun _ => neverEnds_pure _
      exact absurd hLater (hRest bound result.2)
  · exact .inl

end Parser

/-- Runs a parser of phrases on a whole token sequence. -/
def parseAll {α : Type} (p : Phrases → Parser α) (tokens : List Token) :
    Except ParseFailure (α × ParserState) :=
  p (.upTo (2 * (tokens.length + 1))) (tokens.length + 1) ⟨tokens, tokens⟩

/-- A source text that reading neither accepts nor describes a fault of. -/
inductive ReadingStops (source : Text) : Prop where
  /-- An escape denotes an integer but no code point. -/
  | escape (hEscape : EscapeNamesNothing source)
  /-- The text ends within a number. -/
  | number {expanded : Text} {there : Cursor} (hExpanded : expandUnicodeEscapes source = .ok expanded)
      (hReaches : Cursor.Reaches expanded (Cursor.first expanded) there)
      (hNumber : NumberCutOff there.rest)
  /-- The tokens end within the package or the imports. -/
  | header {tokens : List Token} (hTokens : tokenize source = .ok tokens)
      (hHeader : parseAll Parser.header tokens = .error .endOfTokens)
  /-- The tokens end behind an operand, so that there is no telling whether it goes on. -/
  | operand {tokens : List Token} (hTokens : tokenize source = .ok tokens)
      (hOperand : parseAll Parser.compilationUnit tokens = .error .openOperand)

theorem tokenize_eq_abandoned_iff {source : Text} :
    tokenize source = .error .abandoned ↔
      EscapeNamesNothing source ∨ ∃ expanded, expandUnicodeEscapes source = .ok expanded ∧
        ∃ there, Cursor.Reaches expanded (Cursor.first expanded) there ∧
          NumberCutOff there.rest := by
  rw [tokenize, bind_eq_error_iff, expandUnicodeEscapes_eq_abandoned_iff]
  simp only [← tokensFrom_eq_abandoned_iff]
  rfl

theorem ofTokens?_eq_abandoned_iff {tokens : List Token} :
    CompilationUnit.ofTokens? tokens = .error .abandoned ↔
      parseAll Parser.header tokens = .error .endOfTokens ∨
        parseAll Parser.compilationUnit tokens = .error .openOperand := by
  have hHeader : parseAll Parser.compilationUnit tokens = .error .endOfTokens ↔
      parseAll Parser.header tokens = .error .endOfTokens :=
    Parser.compilationUnit_eq_endOfTokens_iff
  rw [← hHeader]
  cases hParse : parseAll Parser.compilationUnit tokens with
  | ok result =>
      have hTree : CompilationUnit.ofTokens? tokens = .ok result.1 := by
        unfold parseAll at hParse
        rw [CompilationUnit.ofTokens?, hParse]
      simp [hTree]
  | error failure =>
      have hFailure : CompilationUnit.ofTokens? tokens = .error failure.toSourceFailure := by
        unfold parseAll at hParse
        rw [CompilationUnit.ofTokens?, hParse]
      rw [hFailure]
      cases failure with
      | exhausted => exact absurd hParse (compilationUnit_ne_exhausted tokens)
      | mismatch description resume => simp [ParseFailure.toSourceFailure]
      | endOfTokens => simp [ParseFailure.toSourceFailure]
      | openOperand => simp [ParseFailure.toSourceFailure]

/-- Reading stops without a description exactly in the cases listed. -/
theorem parse_eq_abandoned_iff {source : Text} :
    CompilationUnit.parse source = .error .abandoned ↔ ReadingStops source := by
  rw [CompilationUnit.parse, bind_eq_error_iff, tokenize_eq_abandoned_iff]
  constructor
  · rintro ((hEscape | ⟨expanded, hExpanded, there, hReaches, hNumber⟩) |
      ⟨tokens, hTokens, hParse⟩)
    · exact .escape hEscape
    · exact .number hExpanded hReaches hNumber
    · rcases ofTokens?_eq_abandoned_iff.1 hParse with hHeader | hOperand
      · exact .header hTokens hHeader
      · exact .operand hTokens hOperand
  · intro h
    cases h with
    | escape hEscape => exact .inl (.inl hEscape)
    | number hExpanded hReaches hNumber =>
        exact .inl (.inr ⟨_, hExpanded, _, hReaches, hNumber⟩)
    | header hTokens hHeader =>
        exact .inr ⟨_, hTokens, ofTokens?_eq_abandoned_iff.2 (.inl hHeader)⟩
    | operand hTokens hOperand =>
        exact .inr ⟨_, hTokens, ofTokens?_eq_abandoned_iff.2 (.inr hOperand)⟩

end SpringAudit.Java

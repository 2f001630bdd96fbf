import SpringAudit.Java.Parser.CompilationUnit
import SpringAudit.Proofs.Java.Parser.Declaration

/-!
# The bounds of the parser suffice

Two levels of phrases serve one token: on the first the phrases that take a token
before they hand on, and on the second those that hand on at once.  So twice as
many levels as tokens are never used up (`Phrases.allTake_upTo`), and neither is
the bound on rounds, whatever the tokens are (`compilationUnit_ne_exhausted`).
-/

namespace SpringAudit.Java

open SpringAudit.Java.Parser

/-! ## Levels -/

namespace Phrases

variable {within : Phrases} {n : Nat}

theorem LeadingTake.extend (h : within.AllTake (n - 1)) : within.extend.LeadingTake n :=
  ⟨takes_expression h, takes_conditional h, takes_operand h, takes_elementValue h,
    takes_block h, takes_classBody h, takes_interfaceBody h, takes_enumBody h,
    takes_annotationTypeBody h⟩

theorem AllTake.extend (h : within.AllTake (n - 1)) (hLeading : within.LeadingTake n) :
    within.extend.AllTake n :=
  ⟨.extend h, takes_initializer h hLeading, takes_statement h hLeading,
    takes_blockStatement h hLeading, takes_classMember h hLeading⟩

theorem allTake_zero (within : Phrases) : within.AllTake 0 := by
  have hNone {α : Type} (p : Parser α) : Takes 0 p :=
    fun _ _ _ hShort => absurd hShort (Nat.not_lt_zero _)
  exact ⟨⟨hNone _, hNone _, hNone _, hNone _, hNone _, hNone _, hNone _, hNone _, hNone _⟩,
    hNone _, hNone _, hNone _, hNone _⟩

theorem allTake_upTo (n : Nat) : (Phrases.upTo (2 * n)).AllTake n := by
  induction n with
  | zero => exact allTake_zero _
  | succ n ih =>
      -- On the level in between only the leading phrases get one token further.
      have hOuter : (Phrases.upTo (2 * n)).extend.AllTake n :=
        .extend ih.pred ih.toLeadingTake
      have hLeading : (Phrases.upTo (2 * n)).extend.LeadingTake (n + 1) := .extend ih
      exact AllTake.extend hOuter hLeading

end Phrases

/-! ## The whole source file -/

namespace Parser

variable {within : Phrases} {n : Nat}

/-- Going back leads to the beginning or to a place that an attempt has passed since. -/
theorem fits_package? (h : within.AllTake (n - 1)) : Fits n (package? within) := by
  have hAnnotations : Fits n (onlyIf annotationAhead? (annotations within)) := by grind
  have hName : Fits n (do
      let name ← qualifiedName
      skip [";"]
      return some name) := by grind
  intro bound here furthest hShort hBound hFurthest hResume
  unfold package?
  rw [run_mark, run_bind]
  have hFirst := hAnnotations bound { here with resume := here.rest } here.rest hShort
    hBound (List.suffix_refl _) (List.suffix_refl _)
  refine (hFirst.bind fun _ after hRest hLeft hAfter => ?_).mono (fun _ => Nat.le_refl _) hFurthest
  dsimp only at hRest hAfter ⊢
  rw [run_bind]
  have hSkip := fits_skip? n ["package"] bound after here.rest (by omega) (by omega)
    hLeft hAfter
  refine (hSkip.mono (fun _ => hRest) (List.suffix_refl _)).bind
    fun found later hLater hLaterLeft hLaterResume => ?_
  cases found with
  | true =>
      have hEnds := hName bound later here.rest (by omega) (by omega) hLaterLeft hLaterResume
      exact hEnds.mono (fun _ => hLater) (List.suffix_refl _)
  | false => exact .ok hLaterResume.length_le hLaterResume hLaterResume

/-- Each piece of an imported name takes a token. -/
theorem takes_importPieces {fuel : Nat} (hFuel : n ≤ fuel) : Takes n (importPieces fuel) := by
  induction fuel generalizing n with
  | zero =>
      intro bound here furthest hShort
      omega
  | succ fuel ih =>
      have hMore : Takes (n - 1) (importPieces fuel) := ih (by omega)
      refine (takes_identifier n).bind fun piece => ?_
      grind

@[grind ←] theorem takes_importDeclaration (n : Nat) : Takes n importDeclaration := by
  refine (takes_skip n _ _).bind fun _ => (fits_skip? _ _).bind fun isStatic => ?_
  refine Reads.readBound fun m bound _ hBound => ?_
  exact (takes_importPieces hBound).fits.bind fun pieces => fits_pure m _

/-- The end of the tokens in a type declaration is a mismatch, which resumes as an attempt. -/
theorem takes_outerDeclaration (h : within.AllTake (n - 1)) :
    Takes n (outerDeclaration within) := by
  have hPhrase : Takes n (do
      if ← skip? [";"] then return none
      else return some (← typeDeclaration within)) := by
    refine Takes.branchSkip (fits_pure _ _) ?_
    exact (takes_typeDeclaration h).bindSame fun _ => fits_pure n _
  intro bound here furthest hShort hBound hFurthest hResume
  have hEnds := hPhrase bound here furthest hShort hBound hFurthest hResume
  unfold outerDeclaration
  dsimp only
  revert hEnds
  generalize (do
      if ← skip? [";"] then return none
      else return some (← typeDeclaration within) : Parser (Option Declaration)) bound here = x
  intro hEnds
  cases hEnds with
  | ok hRest hLeft hAfter => exact .ok hRest hLeft hAfter
  | mismatch hAfter => exact .mismatch hAfter
  | endOfTokens => exact .mismatch hResume
  | openOperand => exact .openOperand

theorem fits_compilationUnit (h : within.AllTake (n - 1)) : Fits n (compilationUnit within) := by
  have hImports : Fits n (whileTrue (next? ["import"]) importDeclaration) := by grind
  have hDeclarations : Fits n (whileTrue (return (← peek).isSome) (outerDeclaration within)) :=
    (takes_outerDeclaration h).whileTrue (by grind)
  refine (fits_package? h).bind fun package => hImports.bind fun imports => ?_
  exact hDeclarations.bind fun declarations => fits_pure n _

end Parser

/-- Parsing a whole token sequence uses up neither the levels nor the rounds. -/
theorem compilationUnit_ne_exhausted (tokens : List Token) :
    Parser.compilationUnit (.upTo (2 * (tokens.length + 1))) (tokens.length + 1)
      ⟨tokens, tokens⟩ ≠ .error .exhausted := by
  have hLevels := (Phrases.allTake_upTo (tokens.length + 1)).mono (Nat.sub_le _ 1)
  have hEnds := fits_compilationUnit hLevels (tokens.length + 1) ⟨tokens, tokens⟩ tokens
    (Nat.lt_succ_self _) (Nat.lt_succ_self _) (List.suffix_refl _) (List.suffix_refl _)
  intro hExhausted
  rw [hExhausted] at hEnds
  cases hEnds

end SpringAudit.Java

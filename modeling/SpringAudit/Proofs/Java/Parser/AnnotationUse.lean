import SpringAudit.Java.Parser.AnnotationUse
import SpringAudit.Proofs.Java.Parser.Type

/-!
# Annotations take tokens

A phrase hands its tokens on to phrases one level further in.  Most phrases take
a token before they do (`Phrases.LeadingTake`); an initial value, a statement and
a member may hand all their tokens on, but only to one of those.
-/

namespace SpringAudit.Java

namespace Phrases

open SpringAudit.Java.Parser (Takes)

variable {within : Phrases} {n m : Nat}

/-- The phrases that take a token before they hand on to another do so on fewer than `n`
tokens. -/
structure LeadingTake (within : Phrases) (n : Nat) : Prop where
  expression : Takes n within.expression
  conditional : Takes n within.conditional
  operand : Takes n within.operand
  elementValue : Takes n within.elementValue
  block : Takes n within.block
  classBody : Takes n within.classBody
  interfaceBody : Takes n within.interfaceBody
  enumBody : Takes n within.enumBody
  annotationTypeBody : Takes n within.annotationTypeBody

/-- All phrases take a token on fewer than `n` tokens. -/
structure AllTake (within : Phrases) (n : Nat) : Prop extends within.LeadingTake n where
  initializer : Takes n within.initializer
  statement : Takes n within.statement
  blockStatement : Takes n within.blockStatement
  classMember : Takes n within.classMember

attribute [grind ←] LeadingTake.expression LeadingTake.conditional LeadingTake.operand
  LeadingTake.elementValue LeadingTake.block LeadingTake.classBody LeadingTake.interfaceBody
  LeadingTake.enumBody LeadingTake.annotationTypeBody AllTake.toLeadingTake
  AllTake.initializer AllTake.statement AllTake.blockStatement AllTake.classMember

theorem LeadingTake.mono (h : within.LeadingTake n) (hLess : m ≤ n) : within.LeadingTake m :=
  ⟨h.expression.mono hLess, h.conditional.mono hLess, h.operand.mono hLess,
    h.elementValue.mono hLess, h.block.mono hLess, h.classBody.mono hLess,
    h.interfaceBody.mono hLess, h.enumBody.mono hLess, h.annotationTypeBody.mono hLess⟩

theorem AllTake.mono (h : within.AllTake n) (hLess : m ≤ n) : within.AllTake m :=
  ⟨h.toLeadingTake.mono hLess, h.initializer.mono hLess, h.statement.mono hLess,
    h.blockStatement.mono hLess, h.classMember.mono hLess⟩

theorem AllTake.pred (h : within.AllTake n) : within.AllTake (n - 1) :=
  h.mono (Nat.sub_le n 1)

grind_pattern AllTake.mono => within.AllTake n, within.AllTake m

end Phrases

namespace Parser

variable {within : Phrases} {n : Nat}

@[grind ←] theorem takes_elementPair (h : within.AllTake (n - 1)) :
    Takes n (elementPair within) := by
  unfold elementPair
  refine (takes_identifier n).bind fun _ => ?_
  grind

@[grind ←] theorem fits_annotationBody (h : within.AllTake n) :
    Fits n (annotationBody within) := by
  unfold annotationBody
  grind

@[grind ←] theorem takes_annotationUse (h : within.AllTake (n - 1)) :
    Takes n (annotationUse within) := by
  unfold annotationUse
  refine (takes_skip n _ _).bind fun _ => ?_
  grind

@[grind ←] theorem takes_annotations (h : within.AllTake (n - 1)) :
    Takes n (annotations within) := by
  unfold annotations
  refine (takes_annotationUse h).bind fun _ => ?_
  grind

/-- A modifier, or an annotation in its place. -/
theorem steps_modifier {α : Type} {e : Expected} {a : α} {use : Parser (Option α)}
    (hUse : Steps n use) :
    Steps n (do
      if ← skip? [e] then return some a
      else if ← annotationAhead? then use
      else return none) := by
  refine Reads.bind (reads_skip? n _) fun isModifier => ?_
  cases isModifier with
  | true => exact reads_pure _ rfl
  | false => exact Reads.branch (fits_annotationAhead? n) hUse (reads_pure n rfl)

@[grind ←] theorem fits_declarationModifiers (h : within.AllTake (n - 1)) :
    Fits n (declarationModifiers within) := by
  refine (steps_modifier ?_).repeatSome.bind fun _ => fits_pure n _
  exact Reads.bind (takes_annotationUse h) fun _ => reads_pure _ rfl

@[grind ←] theorem fits_variableModifiers (h : within.AllTake (n - 1)) :
    Fits n (variableModifiers within) :=
  (steps_modifier (takes_annotationUse h).discard.some).repeatSome.discard

@[grind ←] theorem takes_elementArray (h : within.AllTake (n - 1)) :
    Takes n (elementArray within) := by
  have hItem : Takes (n - 1) (do
      skip [","]
      within.elementValue) := by grind
  have hAhead : Fits (n - 1)
      (return !((← next? [closeBrace]) || (← next? [",", closeBrace]))) := by grind
  unfold elementArray
  refine (takes_skip n _ _).bind fun _ => (fits_skip? _ _).bind fun isEmpty => ?_
  cases isEmpty with
  | true => exact fits_pure _ _
  | false =>
      refine h.elementValue.fits.bind fun first => ?_
      exact (hItem.whileTrue hAhead).bind fun more => by grind

@[grind ←] theorem takes_parameter (h : within.AllTake (n - 1)) :
    Takes n (parameter within) := by
  unfold parameter
  refine (fits_variableModifiers h).bindTakes fun _ => ?_
  grind

/-- Each parameter takes a token, so there are no more of them than the bound. -/
theorem fits_parametersUpTo (h : within.AllTake (n - 1)) {m fuel : Nat} (hLess : m ≤ n)
    (hFuel : m ≤ fuel) : Fits m (parametersUpTo within fuel) := by
  induction fuel generalizing m with
  | zero =>
      intro bound here furthest hShort
      omega
  | succ fuel ih =>
      have hMore : Fits (m - 1) (parametersUpTo within fuel) := ih (by omega) (by omega)
      have hFirst : Takes m (parameter within) := (takes_parameter h).mono hLess
      unfold parametersUpTo
      refine (hFirst.bind fun first => ?_).fits
      grind

@[grind ←] theorem takes_parameters (h : within.AllTake (n - 1)) :
    Takes n (parameters within) := by
  have hPred := h.pred
  unfold parameters
  refine (takes_skip n _ _).bind fun _ => ?_
  refine Fits.branch (fits_skip? _ _) (fits_pure _ _) ?_
  refine Reads.readBound fun m bound hLess hBound => ?_
  exact (fits_parametersUpTo hPred hLess hBound).bind fun found => by grind

end Parser

end SpringAudit.Java

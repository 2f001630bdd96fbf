import SpringAudit.Java.Parser.Expression
import SpringAudit.Proofs.Java.Parser.AnnotationUse

/-!
# Expressions take tokens

Every expression begins with an operand, and every operand with a token of its
own, so expressions hand on to others only further in.  The attempts at a lambda
expression and at a cast may fail; then the operand is read without them.
-/

namespace SpringAudit.Java.Parser

variable {within : Phrases} {n : Nat}

/-! ## Operands -/

@[grind ←] theorem takes_arguments (h : within.AllTake (n - 1)) :
    Takes n (arguments within) := by
  unfold arguments
  refine (takes_skip n _ _).bind fun _ => ?_
  grind

@[grind ←] theorem takes_parenthesised (h : within.AllTake (n - 1)) :
    Takes n (parenthesised within) := by
  unfold parenthesised
  refine (takes_skip n _ _).bind fun _ => ?_
  grind

@[grind ←] theorem fits_superSuffix (h : within.AllTake n) : Fits n (superSuffix within) := by
  have hArguments := takes_arguments h.pred
  unfold superSuffix
  grind

@[grind ←] theorem fits_genericCallTarget (h : within.AllTake n) :
    Fits n (genericCallTarget within) := by
  unfold genericCallTarget
  grind

@[grind ←] theorem takes_genericCall (h : within.AllTake (n - 1)) :
    Takes n (genericCall within) := by
  unfold genericCall
  refine (takes_plainTypeArguments n).bind fun _ => ?_
  grind

@[grind ←] theorem takes_creationArguments (h : within.AllTake (n - 1)) :
    Takes n (creationArguments within) := by
  unfold creationArguments
  refine ((takes_arguments h).discard).bind fun _ => ?_
  grind

@[grind ←] theorem fits_innerCreation (h : within.AllTake n) :
    Fits n (innerCreation within) := by
  unfold innerCreation
  grind

@[grind ←] theorem takes_arrayInitializer (h : within.AllTake (n - 1)) :
    Takes n (arrayInitializer within) := by
  have hItem : Takes (n - 1) (do
      within.initializer
      let isLast ← next? [closeBrace]
      if isLast then pure () else skip [","]) := by grind
  have hAhead : Fits (n - 1) (return !(← skip? [closeBrace])) := by grind
  unfold arrayInitializer
  refine (takes_skip n _ _).bind fun _ => (fits_skip? _ _).bind fun hasComma => ?_
  cases hasComma with
  | true => exact fits_skip _ _
  | false =>
      refine (fits_skip? _ _).bind fun isEmpty => ?_
      cases isEmpty with
      | true => exact fits_pure _ _
      | false => exact hItem.fits.bind fun _ => (hItem.whileTrue hAhead).discard

@[grind ←] theorem takes_initializer (h : within.AllTake (n - 1))
    (hLeading : within.LeadingTake n) : Takes n (initializer within) := by
  unfold initializer
  refine (fits_next? n _).bindTakes fun _ => ?_
  grind

@[grind ←] theorem fits_arrayCreation (h : within.AllTake n) :
    Fits n (arrayCreation within) := by
  have hInitializer := takes_arrayInitializer h.pred
  have hLength : Takes n (do
      skip ["["]
      discard within.expression
      skip ["]"]) := by grind
  have hAhead : Fits n (return (← next? ["["]) && !(← next? ["[", "]"])) := by grind
  have hLengths := (hLength.whileTrue hAhead).discard
  unfold arrayCreation
  grind

@[grind ←] theorem fits_creation (h : within.AllTake n) : Fits n (creation within) := by
  have hArguments := (takes_creationArguments h.pred).fits
  have hArray := fits_arrayCreation h
  unfold creation
  refine Fits.branch (fits_next? n _) (by grind) ?_
  refine (fits_next? n _).bind fun generic => ?_
  cases generic with
  | true => exact (takes_plainTypeArguments n).fits.bind fun _ => by grind
  | false => grind

@[grind ←] theorem fits_nameSuffix (h : within.AllTake n) (pieces : List Text) :
    Fits n (nameSuffix within pieces) := by
  have hArguments := (takes_arguments h.pred).fits
  have hCall := (takes_genericCall h.pred).fits
  unfold nameSuffix
  refine Fits.branch (fits_skip? n _) (by grind) ?_
  refine Fits.branch (fits_next? n _) (by grind) ?_
  refine Fits.branch (fits_skip? n _) (fits_pure n _) ?_
  refine Fits.branch (fits_skip? n _) (fits_pure n _) ?_
  refine Fits.branch (fits_next? n _) (by grind) ?_
  refine Fits.branch (fits_skip? n _) (fits_innerCreation h) ?_
  refine Fits.branch (fits_next? n _) (by grind) (fits_pure n _)

@[grind ←] theorem takes_primary (h : within.AllTake (n - 1)) : Takes n (primary within) := by
  have hArguments := (takes_arguments h.pred).fits
  have hTarget := fits_genericCallTarget h
  have hPieces : Takes (n - 1) (do
      skip ["."]
      identifier) := by grind
  unfold primary
  refine Takes.branch (fits_next? n _) (by grind) ?_
  refine Takes.branch (fits_next? n _) (takes_parenthesised h) ?_
  -- From here on each branch is led by a word, a bracket or a name of its own.
  refine Takes.branchSkip (by grind) ?_
  refine Takes.branch (fits_next? n _) (by grind) ?_
  refine Takes.branchSkip (fits_superSuffix h) ?_
  refine Takes.branchSkip (fits_creation h) ?_
  refine Takes.branch (fits_next? n _) ?_ ?_
  · exact (takes_plainTypeArguments n).bind fun _ => by grind
  refine Takes.branch (fits_next? n _) ?_ ?_
  · refine (takes_identifier n).bind fun first => ?_
    exact (hPieces.whileTrue (fits_next? _ _)).bind fun more => fits_nameSuffix h _
  refine Takes.branchSkip (by grind) ?_
  exact Takes.branchSkip (by grind) (takes_mismatch n _)

@[grind ←] theorem takes_selector (h : within.AllTake (n - 1)) : Takes n (selector within) := by
  have hArguments := (takes_arguments h.pred).fits
  have hCall := (takes_genericCall h.pred).fits
  unfold selector
  refine Takes.branchSkip (by grind) ?_
  refine (takes_skip n _ _).bind fun _ => ?_
  refine Fits.branch (fits_next? _ _) (by grind) ?_
  refine Fits.branch (fits_next? _ _) (by grind) ?_
  refine Fits.branch (fits_next? _ _) hCall ?_
  refine Fits.branch (fits_skip? _ _) (fits_pure _ _) ?_
  refine Fits.branch (fits_skip? _ _) (fits_superSuffix h) ?_
  exact Fits.branch (fits_skip? _ _) (fits_innerCreation h) (fits_mismatch _ _)

/-- At the end of the tokens it is not known whether an operand goes on; no bound is used up. -/
@[grind ←] theorem fits_selectorAhead? (n : Nat) : Fits n selectorAhead? := by
  refine (fits_peek n).bind fun token => ?_
  cases token with
  | none => exact fun _ _ _ _ _ _ _ => .openOperand
  | some token => exact fits_pure n _

@[grind ←] theorem takes_lambdaBody (h : within.AllTake (n - 1)) :
    Takes n (lambdaBody within) := by
  unfold lambdaBody
  refine (takes_skip n _ _).bind fun _ => ?_
  grind

@[grind ←] theorem takes_lambda (h : within.AllTake (n - 1)) : Takes n (lambda within) := by
  have hName : Takes (n - 1) (do
      discard identifier
      skip? [","]) := by grind
  have hAhead : Fits (n - 1) (return !(← next? [")"])) := by grind
  have hBody := (takes_lambdaBody h.pred).fits
  unfold lambda
  refine Takes.branch (fits_next? n _) ?_ ?_
  · refine (takes_skip n _ _).bind fun _ => ?_
    exact (hName.whileTrue hAhead).discard.bind fun _ => (fits_skip _ _).bind fun _ => hBody
  · exact (takes_parameters h).discard.bind fun _ => hBody

@[grind ←] theorem takes_cast (h : within.AllTake (n - 1)) : Takes n (cast within) := by
  unfold cast
  refine (takes_skip n _ _).bind fun _ => ?_
  grind

@[grind ←] theorem takes_plainOperand (h : within.AllTake (n - 1)) (prefixes : List Text) :
    Takes n (plainOperand within prefixes) := by
  have hSelector := takes_selector h.pred
  refine (takes_primary h).bind fun inner => ?_
  refine (hSelector.whileTrue (fits_selectorAhead? _)).bind fun selectors => ?_
  grind

/-- An attempt that fails takes no token, but then the next way to read an operand does. -/
@[grind ←] theorem takes_operand (h : within.AllTake (n - 1)) : Takes n (operand within) := by
  have hLambda := (takes_lambda h).attempt
  have hCast := (takes_cast h).attempt
  unfold operand
  refine Fits.bindTakes (by grind) fun prefixes => ?_
  refine Takes.branch (fits_next? n _) ?_ (takes_plainOperand h _)
  refine hLambda.bindTakes (fun _ => fits_pure _ _) ?_
  exact hCast.bindTakes (fun _ => fits_pure _ _) (takes_plainOperand h _)

/-! ## Expressions -/

@[grind ←] theorem takes_infixOperator (n : Nat) : Takes n infixOperator := by
  refine (takes_take n _).bind fun operator => ?_
  grind

@[grind ←] theorem takes_infixStep (h : within.AllTake (n - 1)) : Takes n (infixStep within) := by
  have hOperand := (takes_operand h.pred).fits
  unfold infixStep
  refine Takes.branchSkip (by grind) ?_
  exact (takes_infixOperator n).bind fun operator => by grind

@[grind ←] theorem takes_infixExpression (h : within.AllTake (n - 1)) :
    Takes n (infixExpression within) := by
  have hStep := takes_infixStep h.pred
  exact (takes_operand h).bind fun first => by grind

@[grind ←] theorem takes_conditional (h : within.AllTake (n - 1)) :
    Takes n (conditional within) := by
  have hBody := (takes_lambdaBody h.pred).fits
  refine (takes_infixExpression h).bind fun first => ?_
  refine Fits.branch (fits_skip? _ _) (by grind) ?_
  refine Fits.branch (fits_next? _ _) hBody ?_
  exact Fits.branch (fits_skip? _ _) (by grind) (fits_pure _ _)

@[grind ←] theorem takes_expression (h : within.AllTake (n - 1)) :
    Takes n (expression within) :=
  (takes_conditional h).bind fun first => by grind

@[grind ←] theorem takes_elementValue (h : within.AllTake (n - 1)) :
    Takes n (elementValue within) := by
  unfold elementValue
  refine Takes.branch (fits_annotationAhead? n) (by grind) ?_
  exact Takes.branch (fits_next? n _) (takes_elementArray h) (takes_conditional h)

end SpringAudit.Java.Parser

import SpringAudit.Java.Parser.Statement
import SpringAudit.Proofs.Java.Parser.Expression

/-!
# Statements take tokens

A block, the body of a `switch` and the control of a loop take a token of their
own first.  A statement may be a block or begin with an expression, which then
take the first token.
-/

namespace SpringAudit.Java.Parser

variable {within : Phrases} {n : Nat}

/-! ## Variables and loops -/

@[grind ←] theorem fits_variableRest (h : within.AllTake n) : Fits n (variableRest within) := by
  have hInitializer := (takes_initializer h.pred h.toLeadingTake).fits
  unfold variableRest
  grind

@[grind ←] theorem takes_variableDeclarator (h : within.AllTake (n - 1)) :
    Takes n (variableDeclarator within) :=
  (takes_identifier n).discard.bind fun _ => fits_variableRest h

@[grind ←] theorem takes_localVariables (h : within.AllTake (n - 1)) :
    Takes n (localVariables within) := by
  have hDeclarator := takes_variableDeclarator h.pred
  refine (fits_variableModifiers h).bindTakes fun _ => ?_
  exact (takes_type n).discard.bind fun _ => by grind

@[grind ←] theorem takes_expressionList (h : within.LeadingTake n) :
    Takes n (expressionList within) :=
  (h.expression.separated _).discard

@[grind ←] theorem fits_loopConditionAndUpdate (h : within.LeadingTake n) :
    Fits n (loopConditionAndUpdate within) := by
  have hUpdate := takes_expressionList h
  unfold loopConditionAndUpdate
  grind

@[grind ←] theorem takes_declaringLoopControl (h : within.AllTake (n - 1)) :
    Takes n (declaringLoopControl within) := by
  have hDeclarator := takes_variableDeclarator h.pred
  have hInitializer := (takes_initializer h.pred h.toLeadingTake).fits
  have hRest := fits_loopConditionAndUpdate h.toLeadingTake
  have hVariables := (hDeclarator.whileTrue (fits_skip? _ [","])).discard
  unfold declaringLoopControl
  refine (fits_variableModifiers h).bindTakes fun _ => ?_
  refine (takes_type n).discard.bind fun _ => ?_
  refine (takes_identifier _).discard.fits.bind fun _ => (fits_dimensions _).discard.bind fun _ => ?_
  refine Fits.branch (fits_skip? _ _) (by grind) ?_
  grind

@[grind ←] theorem fits_loopControl (h : within.AllTake n) : Fits n (loopControl within) := by
  have hDeclaring := (takes_declaringLoopControl h.pred).attempt.fits
  have hList := (takes_expressionList h.toLeadingTake).fits
  have hRest := fits_loopConditionAndUpdate h.toLeadingTake
  unfold loopControl
  grind

/-! ## The parts of statements -/

@[grind ←] theorem takes_catchClause (h : within.AllTake (n - 1)) :
    Takes n (catchClause within) := by
  have hModifiers := fits_variableModifiers h.pred
  unfold catchClause
  refine (takes_skip n _ _).bind fun _ => hModifiers.bind fun _ => ?_
  grind

@[grind ←] theorem fits_handlers (h : within.AllTake n) : Fits n (handlers within) := by
  have hClause := takes_catchClause h.pred
  unfold handlers
  grind

@[grind ←] theorem takes_resource (h : within.AllTake (n - 1)) : Takes n (resource within) := by
  refine (fits_variableModifiers h).bindTakes fun _ => ?_
  refine (takes_referenceType n).discard.bind fun _ => ?_
  grind

@[grind ←] theorem takes_resources (h : within.AllTake (n - 1)) : Takes n (resources within) := by
  have hResource := takes_resource h.pred
  have hItem : Takes (n - 1) (do
      resource within
      let isLast ← next? [")"]
      if isLast then pure () else skip [";"]) := by grind
  have hAhead : Fits (n - 1) (return !(← skip? [")"])) := by grind
  refine (takes_skip n _ _).bind fun _ => hItem.fits.bind fun _ => ?_
  exact (hItem.whileTrue hAhead).discard

@[grind ←] theorem fits_tryRest (h : within.AllTake n) : Fits n (tryRest within) := by
  have hResources := (takes_resources h.pred).fits
  have hHandlers := fits_handlers h
  unfold tryRest
  grind

@[grind ←] theorem fits_labelAhead? (n : Nat) : Fits n labelAhead? :=
  fits_next? n _

@[grind ←] theorem takes_switchLabel (h : within.AllTake (n - 1)) :
    Takes n (switchLabel within) := by
  have hAhead := fits_labelAhead? (n - 1)
  refine (takes_takeAny n).bind fun word => ?_
  grind

@[grind ←] theorem fits_switchLabelAhead? (n : Nat) : Fits n switchLabelAhead? :=
  fits_nextIn? n _

@[grind ←] theorem takes_switchGroup (h : within.AllTake (n - 1)) :
    Takes n (switchGroup within) := by
  have hLabel := takes_switchLabel h.pred
  have hAhead : Fits (n - 1) (return !((← switchLabelAhead?) || (← next? [closeBrace]))) := by
    grind
  have hStatements := (h.blockStatement.whileTrue hAhead).discard
  refine (takes_switchLabel h).bind fun _ => ?_
  grind

@[grind ←] theorem takes_switchBody (h : within.AllTake (n - 1)) :
    Takes n (switchBody within) := by
  have hGroup := takes_switchGroup h.pred
  refine (takes_skip n _ _).bind fun _ => ?_
  grind

@[grind ←] theorem fits_leaveRest (n : Nat) : Fits n leaveRest := by
  unfold leaveRest
  grind

@[grind ←] theorem takes_condition (h : within.AllTake (n - 1)) : Takes n (condition within) :=
  (takes_parenthesised h).discard

/-! ## Statements -/

/-- A block and an expression at the beginning find all the tokens of the statement. -/
@[grind ←] theorem takes_statement (h : within.AllTake (n - 1)) (hLeading : within.LeadingTake n) :
    Takes n (statement within) := by
  have hCondition := (takes_condition h.pred).fits
  have hSwitch := (takes_switchBody h.pred).fits
  unfold statement
  refine Takes.branch (fits_next? n _) hLeading.block ?_
  refine Takes.branchSkip (fits_pure _ _) ?_
  refine Takes.branch (fits_labelAhead? n) ?_ ?_
  · exact (takes_skip n _ _).bind fun _ => h.statement.fits
  -- Each kind of statement has a word that is taken first; only the last has none.
  refine Takes.branchSkip (by grind) ?_
  refine Takes.branchSkip (by grind) ?_
  refine Takes.branchSkip (by grind) ?_
  refine Takes.branchSkip (by grind) ?_
  refine Takes.branchSkip (by grind) ?_
  refine Takes.branchSkip (by grind) ?_
  refine Takes.branchSkip (by grind) ?_
  refine Takes.branchSkip (by grind) ?_
  refine Takes.branchSkip (by grind) ?_
  refine Takes.branchSkip (by grind) ?_
  refine Takes.branchSkip (by grind) ?_
  refine Takes.branchSkip (by grind) ?_
  exact hLeading.expression.discard.bindSame fun _ => fits_skip n _

@[grind ←] theorem takes_block (h : within.AllTake (n - 1)) : Takes n (block within) := by
  have hAhead : Fits (n - 1) (return !(← next? [closeBrace])) := by grind
  refine (takes_skip n _ _).bind fun _ => ?_
  exact (h.blockStatement.whileTrue hAhead).discard.bind fun _ => fits_skip _ _

end SpringAudit.Java.Parser

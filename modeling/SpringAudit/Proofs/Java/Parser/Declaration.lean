import SpringAudit.Java.Parser.Declaration
import SpringAudit.Proofs.Java.Parser.Statement

/-!
# Declarations take tokens

Whether a type declaration begins is asked before a token is taken, so the
question is a step: it has a declaration only if it took tokens.
-/

namespace SpringAudit.Java.Parser

variable {within : Phrases} {n : Nat}

/-! ## Type declarations -/

@[grind ←] theorem Fits.declarationOf {body : Parser (List Declaration)} (h : Fits n body)
    (kind : TypeKind) (annotations : List AnnotationSyntax) (name : Text) :
    Fits n (declarationOf kind annotations name body) :=
  h.bind fun _ => fits_pure n _

@[grind ←] theorem takes_classRest (h : within.AllTake (n - 1))
    (annotations : List AnnotationSyntax) : Takes n (classRest within annotations) := by
  refine (takes_skip n _ _).bind fun _ => ?_
  grind

@[grind ←] theorem takes_enumRest (h : within.AllTake (n - 1))
    (annotations : List AnnotationSyntax) : Takes n (enumRest within annotations) := by
  refine (takes_skip n _ _).bind fun _ => ?_
  grind

@[grind ←] theorem takes_interfaceRest (h : within.AllTake (n - 1))
    (annotations : List AnnotationSyntax) : Takes n (interfaceRest within annotations) := by
  refine (takes_skip n _ _).bind fun _ => ?_
  grind

@[grind ←] theorem takes_annotationTypeRest (h : within.AllTake (n - 1))
    (annotations : List AnnotationSyntax) : Takes n (annotationTypeRest within annotations) := by
  refine (takes_skip n _ _).bind fun _ => ?_
  grind

theorem steps_typeRest? (h : within.AllTake (n - 1)) (annotations : List AnnotationSyntax) :
    Steps n (typeRest? within annotations) := by
  unfold typeRest?
  refine Reads.branch (fits_next? n _) (takes_classRest h annotations).some ?_
  refine Reads.branch (fits_next? n _) (takes_enumRest h annotations).some ?_
  refine Reads.branch (fits_next? n _) (takes_interfaceRest h annotations).some ?_
  refine Reads.branch (fits_annotationTypeAhead? n) (takes_annotationTypeRest h annotations).some ?_
  exact reads_pure n rfl

@[grind ←] theorem takes_typeDeclaration (h : within.AllTake (n - 1)) :
    Takes n (typeDeclaration within) := by
  refine (fits_declarationModifiers h).bindTakes fun annotations => ?_
  exact (steps_typeRest? h annotations).bindTakes (fun _ => fits_pure _ _) (takes_mismatch n _)

@[grind ←] theorem takes_blockStatement (h : within.AllTake (n - 1))
    (hLeading : within.LeadingTake n) : Takes n (blockStatement within) := by
  have hStatement := takes_statement h hLeading
  have hVariables := takes_localVariables h
  unfold blockStatement
  refine (fits_labelAhead? n).bindTakes fun isLabel => ?_
  refine (fits_next? n _).bindTakes fun isLocked => ?_
  split
  · exact hStatement
  · refine (fits_read n).bindTakes fun bound => (fits_remaining n).bindTakes fun tokens => ?_
    cases blockStatementKind false bound tokens with
    | typeDeclaration => exact (takes_typeDeclaration h).discard
    | variableDeclaration => exact hVariables
    | statement => exact hStatement
    | undecided => exact hVariables.attempt.bindTakes (fun _ => fits_pure _ _) hStatement

/-! ## Members of classes -/

@[grind ←] theorem fits_throwsClause (n : Nat) : Fits n throwsClause := by
  unfold throwsClause
  grind

@[grind ←] theorem fits_methodBody (h : within.LeadingTake n) : Fits n (methodBody within) := by
  unfold methodBody
  grind

@[grind ←] theorem takes_methodRest (h : within.AllTake (n - 1))
    (annotations : List AnnotationSyntax) (hasResult : Bool) :
    Takes n (methodRest within annotations hasResult) := by
  have hParameters := (takes_parameters h.pred).fits
  have hBody := fits_methodBody h.toLeadingTake
  refine (takes_identifier n).bind fun name => hParameters.bind fun found => ?_
  cases hasResult with
  | true => grind
  | false => grind

@[grind ←] theorem takes_constructorRest (h : within.AllTake (n - 1)) :
    Takes n (constructorRest within) := by
  have hParameters := (takes_parameters h.pred).fits
  refine (takes_identifier n).discard.bind fun _ => hParameters.discard.bind fun _ => ?_
  grind

@[grind ←] theorem takes_genericRest (h : within.AllTake (n - 1))
    (annotations : List AnnotationSyntax) : Takes n (genericRest within annotations) := by
  have hConstructor := (takes_constructorRest h.pred).fits
  have hMethod (hasResult : Bool) :=
    (takes_methodRest h.pred annotations hasResult).fits
  refine (takes_typeParameters n).bind fun _ => ?_
  grind

@[grind ←] theorem takes_fieldRest (h : within.AllTake (n - 1)) : Takes n (fieldRest within) := by
  have hRest := fits_variableRest h
  have hMore := takes_variableDeclarator h.pred
  refine (takes_identifier n).discard.bind fun _ => ?_
  grind

@[grind ←] theorem takes_memberRest (h : within.AllTake (n - 1))
    (annotations : List AnnotationSyntax) : Takes n (memberRest within annotations) := by
  have hPred := h.pred
  have hMethod (hasResult : Bool) := (takes_methodRest hPred annotations hasResult).fits
  have hField := (takes_fieldRest hPred).fits
  -- There may be no modifier at all, so the member itself has to take a token.
  unfold memberRest
  refine Takes.branchSkip (hMethod false) ?_
  refine Takes.branch (fits_next? n _) (takes_genericRest h annotations) ?_
  refine (steps_typeRest? h annotations).bindTakes (fun _ => fits_pure _ _) ?_
  refine Takes.branch (fits_next? n _) (takes_constructorRest h) ?_
  exact (takes_type n).discard.bind fun _ => by grind

@[grind ←] theorem takes_classMember (h : within.AllTake (n - 1))
    (hLeading : within.LeadingTake n) : Takes n (classMember within) := by
  unfold classMember
  refine Takes.branchSkip (fits_pure _ _) ?_
  refine Takes.branch (fits_next? n _) ?_ ?_
  · exact (takes_skip n _ _).bind fun _ => by grind
  refine Takes.branch (fits_next? n _) ?_ ?_
  · exact hLeading.block.bindSame fun _ => fits_pure n _
  refine (fits_declarationModifiers h).bindTakes fun annotations => ?_
  exact (takes_memberRest h annotations).bindSame fun _ => fits_pure n _

/-! ## Bodies -/

@[grind ←] theorem fits_membersThrough {member : Parser (Option Declaration)}
    (h : Takes n member) : Fits n (membersThrough member) := by
  have hAhead : Fits n (return !(← next? [closeBrace])) := by grind
  refine (h.whileTrue hAhead).bind fun found => ?_
  grind

@[grind ←] theorem takes_classBody (h : within.AllTake (n - 1)) : Takes n (classBody within) :=
  (takes_skip n _ _).bind fun _ => fits_membersThrough h.classMember

@[grind ←] theorem takes_enumConstant (h : within.AllTake (n - 1)) :
    Takes n (enumConstant within) := by
  have hArguments := (takes_arguments h.pred).fits
  refine Fits.bindTakes ((fits_next? n _).onlyIf (takes_annotations h).fits) fun _ => ?_
  exact (takes_identifier n).discard.bind fun _ => by grind

/-- Whether a comma follows does not matter: the constant itself takes a token. -/
@[grind ←] theorem fits_enumConstants (h : within.AllTake (n - 1)) :
    Fits n (enumConstants within) := by
  have hConstant := takes_enumConstant h
  refine fits_repeatWhile ?_
  refine Reads.bind (fits_next? n _) fun atSemicolon => Reads.bind (fits_next? n _) fun atEnd => ?_
  split
  · exact reads_pure n rfl
  · refine Reads.bind hConstant fun _ => Reads.mono (fits_skip? _ _) (fun more => ?_) (Nat.le_refl _)
    cases more with
    | false => exact Nat.le_refl 0
    | true => exact Nat.le_refl 0

@[grind ←] theorem takes_enumBody (h : within.AllTake (n - 1)) : Takes n (enumBody within) := by
  have hConstants := fits_enumConstants h.pred
  have hMembers := fits_membersThrough h.classMember
  refine (takes_skip n _ _).bind fun _ => (fits_skip? _ _).bind fun startsWithComma => ?_
  grind

@[grind ←] theorem fits_constantsRest (h : within.AllTake n) : Fits n (constantsRest within) := by
  have hInitializer := (takes_initializer h.pred h.toLeadingTake).fits
  have hValue : Fits n (do
      discard dimensions
      skip ["="]
      initializer within) := by grind
  have hMore := (takes_identifier n).discard.bindSame fun _ => hValue
  refine hValue.bind fun _ => ?_
  exact (hMore.whileTrue (fits_skip? n _)).discard.bind fun _ => fits_pure n _

@[grind ←] theorem takes_interfaceMemberRest (h : within.AllTake (n - 1))
    (annotations : List AnnotationSyntax) : Takes n (interfaceMemberRest within annotations) := by
  have hPred := h.pred
  have hMethod (hasResult : Bool) := (takes_methodRest hPred annotations hasResult).fits
  have hConstants := fits_constantsRest h
  refine (steps_typeRest? h annotations).bindTakes (fun _ => fits_pure _ _) ?_
  refine Takes.branch (fits_next? n _) ?_ ?_
  · exact (takes_typeParameters n).bind fun _ => by grind
  refine Takes.branchSkip (hMethod false) ?_
  exact (takes_type n).discard.bind fun _ => by grind

@[grind ←] theorem takes_interfaceMember (h : within.AllTake (n - 1)) :
    Takes n (interfaceMember within) := by
  unfold interfaceMember
  refine Takes.branchSkip (fits_pure _ _) ?_
  refine (fits_declarationModifiers h).bindTakes fun annotations => ?_
  exact (takes_interfaceMemberRest h annotations).bindSame fun _ => fits_pure n _

@[grind ←] theorem takes_interfaceBody (h : within.AllTake (n - 1)) :
    Takes n (interfaceBody within) := by
  have hMember := takes_interfaceMember h.pred
  exact (takes_skip n _ _).bind fun _ => fits_membersThrough hMember

@[grind ←] theorem fits_annotationElementRest (h : within.AllTake n) :
    Fits n (annotationElementRest within) := by
  have hConstants := fits_constantsRest h
  unfold annotationElementRest
  grind

@[grind ←] theorem takes_annotationMember (h : within.AllTake (n - 1)) :
    Takes n (annotationMember within) := by
  have hElement := fits_annotationElementRest h
  refine (fits_declarationModifiers h).bindTakes fun annotations => ?_
  refine (steps_typeRest? h annotations).bindTakes (fun _ => fits_pure _ _) ?_
  exact (takes_type n).discard.bind fun _ => by grind

@[grind ←] theorem takes_annotationTypeBody (h : within.AllTake (n - 1)) :
    Takes n (annotationTypeBody within) := by
  have hMember := takes_annotationMember h.pred
  exact (takes_skip n _ _).bind fun _ => fits_membersThrough hMember

end SpringAudit.Java.Parser

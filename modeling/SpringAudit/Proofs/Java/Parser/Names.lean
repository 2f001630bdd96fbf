import SpringAudit.Proofs.Java.Lexer
import SpringAudit.Proofs.Java.Nesting
import SpringAudit.Proofs.Java.Parser.CompilationUnit

/-!
# The names of parsed types

The name of a type is the spelling of an identifier among the tokens.  A parser therefore has
to be followed over tokens that are known (`Makes`): the ones that are left at any time are an
end of those at the beginning, which is part of what `Reads` says.  For members without types
nothing needs to be known about the tokens (`Always`).

The induction is on the levels of the phrases, with those of `Phrases.allTake_upTo`, and gives
`compilationUnit_named` for whole source files.
-/

namespace SpringAudit.Java

namespace Parser

variable {α β : Type}

/-- On fewer than `n` tokens, which are an end of known ones, a result has a property. -/
def Makes (known : List Token) (P : α → Prop) (n : Nat) (p : Parser α) : Prop :=
  ∀ bound here, here.rest.length < n → here.rest.length < bound → here.rest <:+ known →
    here.resume <:+ known → ∀ a after, p bound here = .ok (a, after) → P a

/-- A result has a property whatever the tokens are. -/
def Always (P : α → Prop) (p : Parser α) : Prop :=
  ∀ bound here a after, p bound here = .ok (a, after) → P a

section Sequence

variable {known : List Token} {n m : Nat} {P : α → Prop} {Q : β → Prop} {p : Parser α}
  {f : α → Parser β}

theorem Always.makes (h : Always P p) : Makes known P n p :=
  fun bound here _ _ _ _ => h bound here

theorem always_pure {a : α} (h : P a) : Always P (pure a : Parser α) := by
  intro bound here b after hResult
  obtain ⟨rfl, -⟩ := Prod.mk.inj (Except.ok.inj hResult)
  exact h

theorem Always.bindOf (hFirst : Always P p) (hSecond : ∀ a, P a → Always Q (f a)) :
    Always Q (p >>= f) := by
  intro bound here b after hResult
  obtain ⟨a, between, hHere, hLast⟩ := run_bind_eq_ok_iff.1 hResult
  exact hSecond a (hFirst bound here a between hHere) bound between b after hLast

theorem Always.bind (hSecond : ∀ a, Always Q (f a)) : Always Q (p >>= f) :=
  Always.bindOf (fun _ _ _ _ _ => trivial) fun a _ => hSecond a

theorem always_mismatch (description : Text) : Always P (mismatch description : Parser α) := by
  intro bound here a after hResult
  cases hResult

theorem Makes.mono (h : Makes known P n p) (hLess : m ≤ n) : Makes known P m p :=
  fun bound here hShort => h bound here (Nat.lt_of_lt_of_le hShort hLess)

/-- What is left after the first parser is known as well. -/
theorem Makes.bind {taken : α → Nat} (hFirst : Makes known P n p) (hReads : Reads taken n p)
    (hSecond : ∀ a, P a → Makes known Q (n - taken a) (f a)) : Makes known Q n (p >>= f) := by
  intro bound here hShort hBound hRest hResume b after hResult
  obtain ⟨a, between, hHere, hLast⟩ := run_bind_eq_ok_iff.1 hResult
  have hResult := hFirst bound here hShort hBound hRest hResume a between hHere
  have hEnds := hReads bound here known hShort hBound hRest hResume
  rw [hHere] at hEnds
  -- The place in between is known because the first parser leaves an end of what was there.
  cases hEnds with
  | ok hTaken hLeft hAfter =>
      exact hSecond a hResult bound between (by omega) (by omega) hLeft hAfter b after hLast

/-- Of a first parser whose result does not matter only the tokens are followed. -/
theorem Fits.makes (h : Fits n p) (hSecond : ∀ a, Makes known Q n (f a)) :
    Makes known Q n (p >>= f) :=
  Makes.bind (fun _ _ _ _ _ _ _ _ _ => trivial) h fun a _ => hSecond a

theorem Takes.makes (h : Takes n p) (hSecond : ∀ a, Makes known Q (n - 1) (f a)) :
    Makes known Q n (p >>= f) :=
  Makes.bind (fun _ _ _ _ _ _ _ _ _ => trivial) h fun a _ => hSecond a

/-- A result that is only made into another one. -/
theorem Makes.map {g : α → β} (h : Makes known P n p) (hMap : ∀ a, P a → Q (g a)) :
    Makes known Q n (p >>= fun a => pure (g a)) := by
  intro bound here hShort hBound hRest hResume b after hResult
  obtain ⟨a, between, hHere, hLast⟩ := run_bind_eq_ok_iff.1 hResult
  exact always_pure (hMap a (h bound here hShort hBound hRest hResume a between hHere))
    bound between b after hLast

theorem Makes.branch {condition : Parser Bool} {q : Parser α} (hCondition : Fits n condition)
    (hThen : Makes known P n p) (hElse : Makes known P n q) :
    Makes known P n (condition >>= fun holds => if holds then p else q) := by
  refine hCondition.makes fun holds => ?_
  cases holds with
  | true => exact hThen
  | false => exact hElse

/-- The induction is on the bound; what a round leaves is known as well. -/
theorem Makes.repeatUpTo {step : Parser (Option α)} (hStep : Fits n step)
    (hMakes : Makes known (fun result => ∀ a ∈ result, P a) n step) (fuel : Nat) :
    Makes known (fun found => ∀ a ∈ found, P a) n (Parser.repeatUpTo step fuel) := by
  induction fuel with
  | zero =>
      intro bound here _ _ _ _ found after hResult
      cases hResult
  | succ fuel ih =>
      refine hMakes.bind hStep fun result hResult => ?_
      cases result with
      | none => exact (always_pure (by simp)).makes
      | some a =>
          refine Makes.map ih fun more hMore => ?_
          rw [List.forall_mem_cons]
          exact ⟨hResult a rfl, hMore⟩

theorem Makes.whileTrue {condition : Parser Bool} (hCondition : Fits n condition)
    (hFits : Fits n p) (hMakes : Makes known P n p) :
    Makes known (fun found => ∀ a ∈ found, P a) n (Parser.whileTrue condition p) := by
  have hStep : Fits n (do if ← condition then return some (← p) else return none) :=
    hCondition.branch (hFits.bind fun a => fits_pure n (some a)) (fits_pure n none)
  have hRound : Makes known (fun result => ∀ a ∈ result, P a) n
      (do if ← condition then return some (← p) else return none) := by
    refine Makes.branch hCondition (hMakes.map ?_) (always_pure (by simp)).makes
    rintro a ha b hb
    obtain rfl := Option.mem_some_iff.1 hb
    exact ha
  exact fun bound here => Makes.repeatUpTo hStep hRound bound bound here

end Sequence

/-! ## Identifiers -/

/-- Whether a text is the spelling of an identifier among the tokens. -/
def Spelled (known : List Token) (name : Text) : Prop :=
  ⟨.identifier, name⟩ ∈ known

/-- Whether all names in a member, if there is one, are spelled so. -/
def MemberSpelled (known : List Token) (member : Option Declaration) : Prop :=
  ∀ declaration ∈ member, declaration.Named (Spelled known)

section Identifiers

variable {known : List Token} {n : Nat}

theorem memberSpelled_some {declaration : Declaration}
    (h : declaration.Named (Spelled known)) : MemberSpelled known (some declaration) := by
  intro found hFound
  obtain rfl := Option.mem_some_iff.1 hFound
  exact h

theorem memberSpelled_none : MemberSpelled known none :=
  fun _ hFound => nomatch hFound

theorem makes_identifier : Makes known (Spelled known) n identifier := by
  rintro bound ⟨rest, resume⟩ - - hRest - name after hResult
  cases rest with
  | nil => cases hResult
  | cons token rest =>
      change ((if Expected.matches? (.kind .identifier) token then pure token.text
        else mismatch (Expected.kind .identifier).description : Parser Text) bound
          ⟨rest, resume⟩) = _ at hResult
      split at hResult
      · next hMatches =>
        have hKind : token.kind = .identifier := of_decide_eq_true hMatches
        obtain ⟨rfl, -⟩ := Prod.mk.inj (Except.ok.inj hResult)
        rw [Spelled, ← hKind]
        exact hRest.subset List.mem_cons_self
      · cases hResult

end Identifiers

end Parser

/-! ## Types -/

namespace Phrases

open SpringAudit.Java.Parser (Makes MemberSpelled Spelled)

/-- The phrases with members make types whose names are among the tokens. -/
structure MakeNamed (within : Phrases) (known : List Token) (n : Nat) : Prop where
  classBody : Makes known (AllNamed (Spelled known)) n within.classBody
  classMember : Makes known (MemberSpelled known) n within.classMember
  interfaceBody : Makes known (AllNamed (Spelled known)) n within.interfaceBody
  enumBody : Makes known (AllNamed (Spelled known)) n within.enumBody
  annotationTypeBody : Makes known (AllNamed (Spelled known)) n within.annotationTypeBody

theorem MakeNamed.pred {within : Phrases} {known : List Token} {n : Nat}
    (h : within.MakeNamed known n) : within.MakeNamed known (n - 1) :=
  have hLess := Nat.sub_le n 1
  ⟨h.classBody.mono hLess, h.classMember.mono hLess, h.interfaceBody.mono hLess,
    h.enumBody.mono hLess, h.annotationTypeBody.mono hLess⟩

end Phrases

namespace Parser

section Types

variable {within : Phrases} {known : List Token} {n : Nat} {annotations : List AnnotationSyntax}

theorem Makes.declarationOf {body : Parser (List Declaration)} {name : Text}
    (h : Makes known (AllNamed (Spelled known)) n body) (hName : Spelled known name)
    (kind : TypeKind) (annotations : List AnnotationSyntax) :
    Makes known (Declaration.Named (Spelled known)) n
      (Parser.declarationOf kind annotations name body) := by
  refine h.map fun members hMembers => ?_
  rw [Declaration.Named]
  exact ⟨hName, hMembers⟩

/-- The keyword of a type and its name. -/
theorem makes_named {keyword : List Expected} {e : Expected} {f : Text → Parser Declaration}
    (h : ∀ name, Spelled known name →
      Makes known (Declaration.Named (Spelled known)) (n - 1) (f name)) :
    Makes known (Declaration.Named (Spelled known)) n (do
      skip (e :: keyword)
      let name ← identifier
      f name) := by
  refine (takes_skip n e keyword).makes fun _ => ?_
  exact makes_identifier.bind (takes_identifier _).fits h

theorem makes_classRest (hNamed : within.MakeNamed known (n - 1)) :
    Makes known (Declaration.Named (Spelled known)) n (classRest within annotations) := by
  refine makes_named fun name hName => ?_
  refine Fits.makes (by grind) fun _ => ?_
  refine Fits.makes (by grind) fun _ => ?_
  refine Fits.makes (by grind) fun _ => ?_
  exact hNamed.classBody.declarationOf hName .classType annotations

theorem makes_enumRest (hNamed : within.MakeNamed known (n - 1)) :
    Makes known (Declaration.Named (Spelled known)) n (enumRest within annotations) := by
  refine makes_named fun name hName => ?_
  refine Fits.makes (by grind) fun _ => ?_
  exact hNamed.enumBody.declarationOf hName .enumType annotations

theorem makes_interfaceRest (hNamed : within.MakeNamed known (n - 1)) :
    Makes known (Declaration.Named (Spelled known)) n (interfaceRest within annotations) := by
  refine makes_named fun name hName => ?_
  refine Fits.makes (by grind) fun _ => ?_
  refine Fits.makes (by grind) fun _ => ?_
  exact hNamed.interfaceBody.declarationOf hName .interfaceType annotations

theorem makes_annotationTypeRest (hNamed : within.MakeNamed known (n - 1)) :
    Makes known (Declaration.Named (Spelled known)) n (annotationTypeRest within annotations) := by
  refine makes_named fun name hName => ?_
  exact hNamed.annotationTypeBody.declarationOf hName .annotationType annotations

theorem Makes.someMember {p : Parser Declaration}
    (h : Makes known (Declaration.Named (Spelled known)) n p) :
    Makes known (MemberSpelled known) n (p >>= fun declaration => pure (some declaration)) :=
  h.map fun _ => memberSpelled_some

theorem makes_typeRest? (hNamed : within.MakeNamed known (n - 1)) :
    Makes known (MemberSpelled known) n (typeRest? within annotations) := by
  unfold typeRest?
  refine Makes.branch (fits_next? n _) (makes_classRest hNamed).someMember ?_
  refine Makes.branch (fits_next? n _) (makes_enumRest hNamed).someMember ?_
  refine Makes.branch (fits_next? n _) (makes_interfaceRest hNamed).someMember ?_
  refine Makes.branch (fits_annotationTypeAhead? n)
    (makes_annotationTypeRest hNamed).someMember ?_
  exact (always_pure memberSpelled_none).makes

/-- Where a type or something else may stand, the names in both have to be known. -/
theorem makes_typeOr {Q : β → Prop} {f : Option Declaration → Parser β}
    (hTake : within.AllTake (n - 1)) (hNamed : within.MakeNamed known (n - 1))
    (hSome : ∀ declaration : Declaration, declaration.Named (Spelled known) →
      Always Q (f (some declaration)))
    (hNone : Makes known Q n (f none)) :
    Makes known Q n (typeRest? within annotations >>= f) := by
  refine (makes_typeRest? hNamed).bind (steps_typeRest? hTake annotations).fits ?_
  intro found hFound
  cases found with
  | none => exact hNone
  | some declaration => exact (hSome declaration (hFound declaration rfl)).makes

theorem makes_typeDeclaration (hTake : within.AllTake (n - 1))
    (hNamed : within.MakeNamed known (n - 1)) :
    Makes known (Declaration.Named (Spelled known)) n (typeDeclaration within) := by
  refine (fits_declarationModifiers hTake).makes fun annotations => ?_
  exact makes_typeOr hTake hNamed (fun _ hDeclaration => always_pure hDeclaration)
    (always_mismatch _).makes

/-! ## Members without types -/

variable {P : Text → Prop}

theorem named_method (m : MethodSyntax) : (Declaration.method m).Named P := by
  rw [Declaration.Named]
  trivial

theorem named_other : Declaration.other.Named P := by
  rw [Declaration.Named]
  trivial

theorem always_methodRest (hasResult : Bool) :
    Always (Declaration.Named P) (methodRest within annotations hasResult) := by
  refine Always.bind fun name => Always.bind fun found => ?_
  have hEnd : Always (Declaration.Named P) (do
      throwsClause
      methodBody within
      return .method ⟨name, found, annotations⟩) :=
    Always.bind fun _ => Always.bind fun _ => always_pure (named_method _)
  cases hasResult with
  | true => exact Always.bind fun _ => hEnd
  | false => exact hEnd

theorem always_constructorRest : Always (Declaration.Named P) (constructorRest within) :=
  Always.bind fun _ => Always.bind fun _ => Always.bind fun _ => Always.bind fun _ =>
    always_pure named_other

theorem always_branch {p q : Parser α} {Q : α → Prop} {condition : Parser Bool}
    (hThen : Always Q p) (hElse : Always Q q) :
    Always Q (condition >>= fun holds => if holds then p else q) := by
  refine Always.bind fun holds => ?_
  cases holds with
  | true => exact hThen
  | false => exact hElse

theorem always_genericRest : Always (Declaration.Named P) (genericRest within annotations) := by
  refine Always.bind fun _ => ?_
  refine always_branch always_constructorRest ?_
  refine always_branch (always_methodRest false) ?_
  exact Always.bind fun _ => always_methodRest true

theorem always_fieldRest : Always (Declaration.Named P) (fieldRest within) :=
  Always.bind fun _ => Always.bind fun _ => Always.bind fun _ => Always.bind fun _ =>
    always_pure named_other

theorem always_constantsRest : Always (Declaration.Named P) (constantsRest within) :=
  Always.bind fun _ => Always.bind fun _ => always_pure named_other

theorem always_annotationElementRest :
    Always (Declaration.Named P) (annotationElementRest within) := by
  refine always_branch ?_ always_constantsRest
  exact Always.bind fun _ => Always.bind fun _ => Always.bind fun _ => always_pure named_other

/-! ## Members and bodies -/

theorem makes_memberRest (hTake : within.AllTake (n - 1))
    (hNamed : within.MakeNamed known (n - 1)) :
    Makes known (Declaration.Named (Spelled known)) n (memberRest within annotations) := by
  unfold memberRest
  refine Makes.branch (fits_skip? n _) (always_methodRest false).makes ?_
  refine Makes.branch (fits_next? n _) always_genericRest.makes ?_
  refine makes_typeOr hTake hNamed (fun _ hDeclaration => always_pure hDeclaration) ?_
  refine Always.makes (always_branch always_constructorRest ?_)
  exact Always.bind fun _ => always_branch (always_methodRest true) always_fieldRest

theorem always_noMember : Always (MemberSpelled known) (pure none) :=
  always_pure memberSpelled_none

theorem makes_classMember (hTake : within.AllTake (n - 1))
    (hNamed : within.MakeNamed known (n - 1)) :
    Makes known (MemberSpelled known) n (classMember within) := by
  unfold classMember
  refine Makes.branch (fits_skip? n _) always_noMember.makes ?_
  refine Makes.branch (fits_next? n _) ?_ ?_
  · exact Always.makes (Always.bind fun _ => Always.bind fun _ => always_noMember)
  refine Makes.branch (fits_next? n _) (Always.bind fun _ => always_noMember).makes ?_
  refine (fits_declarationModifiers hTake).makes fun annotations => ?_
  exact (makes_memberRest hTake hNamed).someMember

theorem makes_interfaceMember (hTake : within.AllTake (n - 1))
    (hNamed : within.MakeNamed known (n - 1)) :
    Makes known (MemberSpelled known) n (interfaceMember within) := by
  unfold interfaceMember
  refine Makes.branch (fits_skip? n _) always_noMember.makes ?_
  refine (fits_declarationModifiers hTake).makes fun annotations => Makes.someMember ?_
  refine makes_typeOr hTake hNamed (fun _ hDeclaration => always_pure hDeclaration) ?_
  refine Always.makes (always_branch ?_ (always_branch (always_methodRest false) ?_))
  · refine Always.bind fun _ => Always.bind fun found => ?_
    cases found with
    | true => exact always_methodRest true
    | false => exact Always.bind fun _ => always_methodRest true
  · refine Always.bind fun _ => always_branch (always_methodRest true) ?_
    refine Always.bind fun _ => ?_
    refine (always_constantsRest (P := Spelled known)).bindOf fun constants hConstants => ?_
    exact Always.bind fun _ => always_pure hConstants

theorem makes_annotationMember (hTake : within.AllTake (n - 1))
    (hNamed : within.MakeNamed known (n - 1)) :
    Makes known (MemberSpelled known) n (annotationMember within) := by
  refine (fits_declarationModifiers hTake).makes fun annotations => ?_
  refine makes_typeOr hTake hNamed
    (fun _ hDeclaration => always_pure (memberSpelled_some hDeclaration)) ?_
  refine Always.makes (Always.bind fun _ => Always.bind fun _ => ?_)
  refine (always_annotationElementRest (P := Spelled known)).bindOf fun element hElement => ?_
  exact Always.bind fun _ => always_pure (memberSpelled_some hElement)

/-- The members up to a closing brace are those of the rounds. -/
theorem makes_membersThrough {member : Parser (Option Declaration)} (hTakes : Takes n member)
    (h : Makes known (MemberSpelled known) n member) :
    Makes known (AllNamed (Spelled known)) n (membersThrough member) := by
  have hAhead : Fits n (return !(← next? [closeBrace])) := by grind
  refine (Makes.whileTrue hAhead hTakes.fits h).bind (hTakes.whileTrue hAhead) ?_
  intro found hFound
  refine Always.makes (Always.bind fun _ => always_pure (allNamed_iff.2 ?_))
  intro declaration hMem
  obtain ⟨member, hMember, rfl⟩ := List.mem_filterMap.1 hMem
  exact hFound _ hMember declaration rfl

theorem makes_classBody (hTake : within.AllTake (n - 1)) (hNamed : within.MakeNamed known (n - 1)) :
    Makes known (AllNamed (Spelled known)) n (classBody within) :=
  (takes_skip n _ _).makes fun _ => makes_membersThrough hTake.classMember hNamed.classMember

theorem makes_enumBody (hTake : within.AllTake (n - 1)) (hNamed : within.MakeNamed known (n - 1)) :
    Makes known (AllNamed (Spelled known)) n (enumBody within) := by
  have hConstants := fits_enumConstants hTake.pred
  refine (takes_skip n _ _).makes fun _ => (fits_skip? _ _).makes fun startsWithComma => ?_
  have hEnd : Makes known (AllNamed (Spelled known)) (n - 1) (do
      if ← skip? [";"] then membersThrough within.classMember
      else
        skip [closeBrace]
        return []) := by
    refine Makes.branch (fits_skip? _ _)
      (makes_membersThrough hTake.classMember hNamed.classMember) ?_
    refine Always.makes (Always.bind fun _ => always_pure ?_)
    rw [AllNamed]
    trivial
  cases startsWithComma with
  | true => exact hEnd
  | false => exact hConstants.makes fun _ => hEnd

theorem makes_interfaceBody (hTake : within.AllTake (n - 1))
    (hNamed : within.MakeNamed known (n - 1)) :
    Makes known (AllNamed (Spelled known)) n (interfaceBody within) :=
  (takes_skip n _ _).makes fun _ => makes_membersThrough (takes_interfaceMember hTake.pred)
    (makes_interfaceMember hTake.pred hNamed.pred)

theorem makes_annotationTypeBody (hTake : within.AllTake (n - 1))
    (hNamed : within.MakeNamed known (n - 1)) :
    Makes known (AllNamed (Spelled known)) n (annotationTypeBody within) :=
  (takes_skip n _ _).makes fun _ => makes_membersThrough (takes_annotationMember hTake.pred)
    (makes_annotationMember hTake.pred hNamed.pred)

end Types

end Parser

/-! ## Levels -/

namespace Phrases

open SpringAudit.Java.Parser

variable {within : Phrases} {known : List Token} {n : Nat}

theorem MakeNamed.extend (hTake : within.AllTake (n - 1))
    (hNamed : within.MakeNamed known (n - 1)) : within.extend.MakeNamed known n :=
  ⟨makes_classBody hTake hNamed, makes_classMember hTake hNamed, makes_interfaceBody hTake hNamed,
    makes_enumBody hTake hNamed, makes_annotationTypeBody hTake hNamed⟩

theorem makeNamed_zero (within : Phrases) : within.MakeNamed known 0 := by
  have hNone {α : Type} {P : α → Prop} (p : Parser α) : Makes known P 0 p :=
    fun _ _ hShort => absurd hShort (Nat.not_lt_zero _)
  exact ⟨hNone _, hNone _, hNone _, hNone _, hNone _⟩

theorem makeNamed_upTo (n : Nat) : (Phrases.upTo (2 * n)).MakeNamed known n := by
  induction n with
  | zero => exact makeNamed_zero _
  | succ n ih =>
      -- A token has two levels; the one in between keeps what is known for `n` tokens.
      have hTake := allTake_upTo n
      have hOuter : (Phrases.upTo (2 * n)).extend.AllTake n :=
        .extend hTake.pred hTake.toLeadingTake
      have hNamed : (Phrases.upTo (2 * n)).extend.MakeNamed known n := .extend hTake.pred ih.pred
      exact MakeNamed.extend hOuter hNamed

end Phrases

/-! ## The whole source file -/

namespace Parser

variable {within : Phrases} {known : List Token} {n : Nat}

theorem makes_outerDeclaration (hTake : within.AllTake (n - 1))
    (hNamed : within.MakeNamed known (n - 1)) :
    Makes known (MemberSpelled known) n (outerDeclaration within) := by
  have hPhrase : Makes known (MemberSpelled known) n (do
      if ← skip? [";"] then return none
      else return some (← typeDeclaration within)) :=
    Makes.branch (fits_skip? n _) (always_pure memberSpelled_none).makes
      (makes_typeDeclaration hTake hNamed).someMember
  intro bound here hShort hBound hRest hResume found after hResult
  refine hPhrase bound here hShort hBound hRest hResume found after ?_
  -- The end of the tokens becomes another failure here, and neither of them is a result.
  unfold outerDeclaration at hResult
  dsimp only at hResult
  split at hResult
  · cases hResult
  · exact hResult

theorem makes_qualifiedName :
    Makes known (fun name => ∃ first more, Spelled known first ∧ name = first ++ more) n
      qualifiedName := by
  have hPieces : Makes known (fun pieces => ∃ first rest, Spelled known first ∧
      pieces = first :: rest) n (separated "." identifier) :=
    makes_identifier.bind (takes_identifier n).fits fun first hFirst =>
      (Always.bind fun rest => always_pure ⟨first, rest, hFirst, rfl⟩).makes
  refine hPieces.map ?_
  rintro _ ⟨first, rest, hFirst, rfl⟩
  obtain ⟨more, hJoin⟩ := Text.exists_join_cons '.' first rest
  exact ⟨first, more, hFirst, hJoin⟩

/-- The name of a package begins with an identifier. -/
theorem makes_package? (hTake : within.AllTake (n - 1)) :
    Makes known (fun package => ∀ name ∈ package, ∃ first more, Spelled known first ∧
      name = first ++ more) n (package? within) := by
  have hAnnotations : Fits n (onlyIf annotationAhead? (annotations within)) := by grind
  have hName : Makes known (fun package => ∀ name ∈ package, ∃ first more,
      Spelled known first ∧ name = first ++ more) n (do
        let name ← qualifiedName
        skip [";"]
        return some name) := by
    refine makes_qualifiedName.bind (takes_qualifiedName n).fits fun name hFound => ?_
    refine Always.makes (Always.bind fun _ => always_pure fun package hPackage => ?_)
    obtain rfl := Option.mem_some_iff.1 hPackage
    exact hFound
  have hNone : Always (fun package => ∀ name ∈ package, ∃ first more,
      Spelled known first ∧ name = first ++ more) (do
        goBack
        return none) :=
    Always.bind fun _ => always_pure fun _ hPackage => nomatch hPackage
  have hRest := hAnnotations.makes fun _ =>
    Makes.branch (fits_skip? n ["package"]) hName hNone.makes
  intro bound here hShort hBound hKnown _ package after hResult
  -- The beginning becomes the place to resume at, and it is known.
  unfold package? at hResult
  rw [run_mark] at hResult
  exact hRest bound { here with resume := here.rest } hShort hBound hKnown hKnown package after
    hResult

/-- The names in a source file are among the tokens. -/
theorem makes_compilationUnit (hTake : within.AllTake (n - 1))
    (hNamed : within.MakeNamed known (n - 1)) :
    Makes known (fun tree => (∀ name ∈ tree.package, ∃ first more, Spelled known first ∧
      name = first ++ more) ∧ AllNamed (Spelled known) tree.declarations) n
      (compilationUnit within) := by
  have hImports : Fits n (whileTrue (next? ["import"]) importDeclaration) := by grind
  have hAhead : Fits n (return (← peek).isSome) := by grind
  have hDeclarations := Makes.whileTrue hAhead (takes_outerDeclaration hTake).fits
    (makes_outerDeclaration hTake hNamed)
  refine (makes_package? hTake).bind (fits_package? hTake) fun package hPackage => ?_
  refine hImports.makes fun imports => hDeclarations.map fun found hFound => ⟨hPackage, ?_⟩
  refine allNamed_iff.2 fun declaration hMem => ?_
  obtain ⟨member, hMember, rfl⟩ := List.mem_filterMap.1 hMem
  exact hFound _ hMember declaration rfl

end Parser

/-- In a source file that is parsed the name of the package is not empty, and all types have
identifiers as names. -/
theorem isName_of_parse {source : Text} {tree : CompilationUnit}
    (h : CompilationUnit.parse source = .ok tree) :
    tree.package ≠ some [] ∧
      ∀ t : NestedType, t.In tree.declarations → ∀ name ∈ t.names, IsName name := by
  obtain ⟨tokens, hTokens, hParse⟩ := bind_eq_ok_iff.1 h
  obtain ⟨expanded, -, hTokens⟩ := bind_eq_ok_iff.1 hTokens
  have hSpelled : ∀ name, Parser.Spelled tokens name → IsName name :=
    fun name hMem => isName_of_mem_tokensFrom hTokens _ hMem rfl
  let within := Phrases.upTo (2 * (tokens.length + 1))
  have hTake : within.AllTake (tokens.length + 1 - 1) := (Phrases.allTake_upTo _).pred
  have hNamed : within.MakeNamed tokens (tokens.length + 1 - 1) := (Phrases.makeNamed_upTo _).pred
  unfold CompilationUnit.ofTokens? at hParse
  dsimp only at hParse
  split at hParse
  · next after hResult =>
    obtain rfl := Except.ok.inj hParse
    obtain ⟨hPackage, hDeclarations⟩ := Parser.makes_compilationUnit hTake hNamed
      (tokens.length + 1) ⟨tokens, tokens⟩ (Nat.lt_succ_self _) (Nat.lt_succ_self _)
      (List.suffix_refl _) (List.suffix_refl _) _ _ hResult
    constructor
    · intro hEmpty
      obtain ⟨first, more, hFirst, hName⟩ := hPackage [] hEmpty
      exact (hSpelled first hFirst).ne_nil (List.append_eq_nil_iff.1 hName.symm).1
    · intro t hIn name hName
      exact hSpelled name (hDeclarations.names hIn name hName)
  · cases hParse

end SpringAudit.Java

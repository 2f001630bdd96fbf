import SpringAudit.Proofs.Source.ClassList

/-!
# What the path of an annotation tells

The path of an annotation joins the name of a class, the signature of a method, if it stands on
one, and the name of the annotation.  The names are Java identifiers, or such names joined by
dots, so that none of the other marks occurs in them (`IsPlain`, `IsDotted`).  Therefore a
signature tells the name of the method and the types of its parameters (`signatureText_eq_iff`),
and a path tells its three parts (`annotationPath_eq_iff`).

Type arguments and dimensions of inner pieces are no part of a type here, and a variadic parameter
is not told from one with one more dimension.
-/

namespace SpringAudit

open Java

/-! ## Names -/

/-- What stands between the names in signatures and paths, and in the place of a name. -/
def pathMarks : Text := ".,()[]#@?"

/-- A name in which no mark occurs, such as a Java identifier. -/
def IsPlain (name : Text) : Prop :=
  name ≠ [] ∧ ∀ c ∈ name, c ∉ pathMarks

instance (name : Text) : Decidable (IsPlain name) :=
  inferInstanceAs (Decidable (name ≠ [] ∧ ∀ c ∈ name, c ∉ pathMarks))

/-- A name in which dots are the only marks, such as that of a class with its package. -/
def IsDotted (name : Text) : Prop :=
  ∀ c ∈ name, c ∈ pathMarks → c = '.'

instance (name : Text) : Decidable (IsDotted name) :=
  inferInstanceAs (Decidable (∀ c ∈ name, c ∈ pathMarks → c = '.'))

/-- The identifiers of source files are plain. -/
theorem isPlain_of_isName {name : Text} (h : IsName name) : IsPlain name := by
  have hMarks : ∀ c ∈ pathMarks, c.isIdentifierPart = false := by decide +kernel
  refine ⟨h.ne_nil, fun c hMem hMark => ?_⟩
  have hPart := h.isPart c hMem
  rw [hMarks c hMark] at hPart
  cases hPart

theorem IsPlain.notMem {name : Text} (h : IsPlain name) {c : CodePoint} (hMark : c ∈ pathMarks) :
    c ∉ name :=
  fun hMem => h.2 c hMem hMark

theorem IsDotted.notMem {name : Text} (h : IsDotted name) {c : CodePoint} (hMark : c ∈ pathMarks)
    (hDot : c ≠ '.') : c ∉ name :=
  fun hMem => hDot (h c hMem hMark)

/-- Plain names joined by dots are a dotted name. -/
theorem isDotted_join {names : List Text} (h : ∀ name ∈ names, IsPlain name) :
    IsDotted (Text.join "." names) := by
  intro c hMem hMark
  rcases Text.mem_join hMem with hBetween | ⟨name, hName, hHere⟩
  · exact List.mem_singleton.1 hBetween
  · exact absurd hHere ((h name hName).notMem hMark)

/-! ## Types -/

namespace Java

/-- The name of a type after the names of those around it. -/
def TypeRef.pieces (t : TypeRef) : List Text :=
  t.name :: t.inner

/-- The dotted name of a type. -/
def TypeRef.dottedName (t : TypeRef) : Text :=
  Text.join "." t.pieces

/-- Whether the name of a type is made of plain names. -/
def TypeRef.IsPlain (t : TypeRef) : Prop :=
  ∀ name ∈ t.pieces, SpringAudit.IsPlain name

instance (t : TypeRef) : Decidable t.IsPlain :=
  inferInstanceAs (Decidable (∀ name ∈ t.pieces, SpringAudit.IsPlain name))

namespace Parameter

/-- The dotted name of the type of a parameter, if it has a type. -/
def typeName? (p : Parameter) : Option Text :=
  p.type.map TypeRef.dottedName

/-- The dimensions of the type of a parameter, one more if the parameter is variadic. -/
def rank (p : Parameter) : Nat :=
  p.type.elim 0 TypeRef.dimensions + p.variadic.toNat

/-- Whether the type of a parameter, if it has one, is made of plain names. -/
def IsPlain (p : Parameter) : Prop :=
  ∀ t ∈ p.type, t.IsPlain

instance (p : Parameter) : Decidable p.IsPlain :=
  inferInstanceAs (Decidable (∀ t ∈ p.type, t.IsPlain))

/-- Two parameters that signatures do not tell apart. -/
structure Agrees (p q : Parameter) : Prop where
  typeName : p.typeName? = q.typeName?
  rank : p.rank = q.rank

end Parameter

end Java

/-- The name of a type that is made of plain names tells these. -/
theorem Java.TypeRef.dottedName_eq_iff {t u : TypeRef} (ht : t.IsPlain) (hu : u.IsPlain) :
    t.dottedName = u.dottedName ↔ t.name = u.name ∧ t.inner = u.inner := by
  have hDot : ('.' : CodePoint) ∈ pathMarks := by decide
  constructor
  · intro h
    have hPieces : t.pieces = u.pieces :=
      Text.eq_of_join_eq_join (List.cons_ne_nil _ _) (List.cons_ne_nil _ _)
        (fun name hMem => (ht name hMem).notMem hDot)
        (fun name hMem => (hu name hMem).notMem hDot) h
    exact List.cons_eq_cons.1 hPieces
  · rintro ⟨hName, hInner⟩
    rw [TypeRef.dottedName, TypeRef.dottedName, TypeRef.pieces, TypeRef.pieces, hName, hInner]

/-! ## Parameters -/

/-- The text of a parameter is the name of its type, or a question mark, and then its
dimensions. -/
theorem parameterText_eq (p : Parameter) :
    parameterText p = p.typeName?.getD "?" ++ Text.repeated p.rank "[]" := by
  obtain ⟨type, variadic⟩ := p
  cases type with
  | none => cases variadic <;> rfl
  | some t =>
      cases variadic with
      | false => rfl
      | true =>
          show Text.join "." t.pieces ++ Text.repeated t.dimensions "[]" ++ "[]" =
            Text.join "." t.pieces ++ Text.repeated (t.dimensions + 1) "[]"
          rw [Text.repeated_succ, List.append_assoc]

namespace Java.Parameter

variable {p q : Parameter}

/-- The only marks in front of the dimensions are dots and the question mark. -/
theorem mem_typeName? (h : p.IsPlain) {c : CodePoint} (hMem : c ∈ p.typeName?.getD "?")
    (hMark : c ∈ pathMarks) : c = '.' ∨ c = '?' := by
  cases hType : p.type with
  | none =>
      rw [typeName?, hType] at hMem
      exact .inr (List.mem_singleton.1 hMem)
  | some t =>
      rw [typeName?, hType] at hMem
      exact .inl (isDotted_join (h t hType) c hMem hMark)

/-- No type has the question mark as name. -/
theorem typeName?_ne_question (h : p.IsPlain) : p.typeName? ≠ some "?" := by
  intro hSome
  obtain ⟨t, hType, hName⟩ := Option.map_eq_some_iff.1 hSome
  have hNoMark : ('?' : CodePoint) ∉ t.dottedName :=
    (isDotted_join (h t hType)).notMem (by decide) (by decide)
  rw [hName] at hNoMark
  exact hNoMark (List.mem_singleton_self _)

/-- The name of a type is told from the question mark and from other names. -/
theorem typeName?_eq (hp : p.IsPlain) (hq : q.IsPlain)
    (h : p.typeName?.getD "?" = q.typeName?.getD "?") : p.typeName? = q.typeName? := by
  cases hFirst : p.typeName? with
  | none =>
      cases hSecond : q.typeName? with
      | none => rfl
      | some name =>
          rw [hFirst, hSecond] at h
          exact absurd (hSecond.trans (congrArg some h.symm)) (typeName?_ne_question hq)
  | some name =>
      cases hSecond : q.typeName? with
      | none =>
          rw [hFirst, hSecond] at h
          exact absurd (hFirst.trans (congrArg some h)) (typeName?_ne_question hp)
      | some name' =>
          rw [hFirst, hSecond] at h
          exact congrArg some h

end Java.Parameter

/-- The text of a parameter tells the name of its type and its dimensions. -/
theorem parameterText_eq_iff {p q : Parameter} (hp : p.IsPlain) (hq : q.IsPlain) :
    parameterText p = parameterText q ↔ p.Agrees q := by
  constructor
  · intro h
    rw [parameterText_eq, parameterText_eq] at h
    have hNoBracket {r : Parameter} (hr : r.IsPlain) :
        (r.typeName?.getD "?").count ('[' : CodePoint) = 0 := by
      apply List.count_eq_zero.2
      intro hMem
      exact absurd (Parameter.mem_typeName? hr hMem (by decide)) (by decide)
    have hBracket : ("[]" : Text).count ('[' : CodePoint) = 1 := by decide
    -- Each dimension has one opening bracket, and there is none before.
    have hRank : p.rank = q.rank := by
      have hCount := congrArg (List.count ('[' : CodePoint)) h
      simpa only [List.count_append, hNoBracket hp, hNoBracket hq, Text.count_repeated, hBracket,
        Nat.mul_one, Nat.zero_add] using hCount
    rw [hRank] at h
    exact ⟨Parameter.typeName?_eq hp hq (List.append_cancel_right h), hRank⟩
  · intro h
    rw [parameterText_eq, parameterText_eq, h.typeName, h.rank]

/-- The marks in the text of a parameter. -/
theorem mem_parameterText {p : Parameter} (h : p.IsPlain) {c : CodePoint}
    (hMem : c ∈ parameterText p) (hMark : c ∈ pathMarks) : c ∈ (".?[]" : Text) := by
  rw [parameterText_eq, List.mem_append] at hMem
  rcases hMem with hName | hDimensions
  · rcases Parameter.mem_typeName? h hName hMark with rfl | rfl
    · decide
    · decide
  · have hBrackets : ∀ c ∈ ("[]" : Text), c ∈ (".?[]" : Text) := by decide
    exact hBrackets c (Text.mem_of_mem_repeated hDimensions)

theorem parameterText_ne_nil {p : Parameter} (h : p.IsPlain) : parameterText p ≠ [] := by
  rw [parameterText_eq]
  apply List.append_ne_nil_of_left_ne_nil
  cases hType : p.type with
  | none =>
      rw [Parameter.typeName?, hType]
      exact List.cons_ne_nil _ _
  | some t =>
      rw [Parameter.typeName?, hType]
      apply Text.join_ne_nil (List.cons_ne_nil _ _)
      exact fun name hMem => (h t hType name hMem).1

theorem map_parameterText_eq_iff {ps qs : List Parameter} (hps : ∀ p ∈ ps, p.IsPlain)
    (hqs : ∀ q ∈ qs, q.IsPlain) :
    ps.map parameterText = qs.map parameterText ↔ List.Forall₂ Parameter.Agrees ps qs := by
  induction ps generalizing qs with
  | nil => cases qs <;> simp
  | cons p ps ih =>
      cases qs with
      | nil => simp
      | cons q qs =>
          rw [List.forall_mem_cons] at hps hqs
          rw [List.map_cons, List.map_cons, List.cons.injEq, List.forall₂_cons,
            parameterText_eq_iff hps.1 hqs.1, ih hps.2 hqs.2]

/-! ## Signatures -/

namespace Java.MethodSyntax

/-- The signature of a method as it is written. -/
def signature (m : MethodSyntax) : Text :=
  signatureText m.name m.parameters

/-- Whether the name of a method and the types of its parameters are made of plain names. -/
def IsPlain (m : MethodSyntax) : Prop :=
  SpringAudit.IsPlain m.name ∧ ∀ p ∈ m.parameters, p.IsPlain

instance (m : MethodSyntax) : Decidable m.IsPlain :=
  inferInstanceAs (Decidable (SpringAudit.IsPlain m.name ∧ ∀ p ∈ m.parameters, p.IsPlain))

end Java.MethodSyntax

/-- The marks in the texts of parameters and between them. -/
theorem mem_join_parameterText {ps : List Parameter} (h : ∀ p ∈ ps, p.IsPlain) {c : CodePoint}
    (hMem : c ∈ Text.join "," (ps.map parameterText)) (hMark : c ∈ pathMarks) :
    c ∈ (".?[]," : Text) := by
  rcases Text.mem_join hMem with hBetween | ⟨_, hText, hHere⟩
  · obtain rfl := List.mem_singleton.1 hBetween
    decide
  · obtain ⟨p, hParameter, rfl⟩ := List.mem_map.1 hText
    have hAmong : ∀ c ∈ (".?[]" : Text), c ∈ (".?[]," : Text) := by decide
    exact hAmong c (mem_parameterText (h p hParameter) hHere hMark)

theorem signature_eq (m : MethodSyntax) :
    m.signature = m.name ++ ('(' : CodePoint) ::
      (Text.join "," (m.parameters.map parameterText) ++ (")" : Text)) := by
  simp only [MethodSyntax.signature, signatureText, List.append_assoc]
  rfl

/-- The marks in a signature. -/
theorem mem_signature {m : MethodSyntax} (h : m.IsPlain) {c : CodePoint} (hMem : c ∈ m.signature)
    (hMark : c ∈ pathMarks) : c ∈ (".?[],()" : Text) := by
  have hAmong : ∀ c ∈ (".?[]," : Text), c ∈ (".?[],()" : Text) := by decide
  rw [signature_eq, List.mem_append, List.mem_cons, List.mem_append] at hMem
  rcases hMem with hName | rfl | hParameters | hEnd
  · exact absurd hName (h.1.notMem hMark)
  · decide
  · exact hAmong c (mem_join_parameterText h.2 hParameters hMark)
  · obtain rfl := List.mem_singleton.1 hEnd
    decide

/-- A signature tells the name of the method and the types of its parameters. -/
theorem signature_eq_iff {m n : MethodSyntax} (hm : m.IsPlain) (hn : n.IsPlain) :
    m.signature = n.signature ↔
      m.name = n.name ∧ List.Forall₂ Parameter.Agrees m.parameters n.parameters := by
  rw [← map_parameterText_eq_iff hm.2 hn.2, signature_eq, signature_eq]
  constructor
  · intro h
    have hRest : ('(' : CodePoint) ∉
        Text.join "," (m.parameters.map parameterText) ++ (")" : Text) := by
      rw [List.mem_append]
      rintro (hMem | hMem)
      · exact absurd (mem_join_parameterText hm.2 hMem (by decide)) (by decide)
      · exact absurd hMem (by decide)
    obtain ⟨hName, -, hParameters⟩ :=
      (List.append_cons_inj_of_notMem (hm.1.notMem (by decide)) hRest).1 h
    have hTexts {k : MethodSyntax} (hk : k.IsPlain) :
        ∀ t ∈ k.parameters.map parameterText, t ≠ [] ∧ (',' : CodePoint) ∉ t := by
      simp only [List.forall_mem_map]
      intro p hMem
      refine ⟨parameterText_ne_nil (hk.2 p hMem), fun hComma => ?_⟩
      exact absurd (mem_parameterText (hk.2 p hMem) hComma (by decide)) (by decide)
    exact ⟨hName, Text.join_inj (hTexts hm) (hTexts hn) (List.append_cancel_right hParameters)⟩
  · rintro ⟨hName, hParameters⟩
    rw [hName, hParameters]

/-! ## Paths -/

/-- What an annotation stands on: a class, or a method as it is written in the body of a class. -/
structure AnnotationSite where
  className : Text
  method? : Option MethodSyntax

namespace AnnotationSite

/-- The signature of the method, if the annotation stands on one. -/
def signature? (s : AnnotationSite) : Option Text :=
  s.method?.map MethodSyntax.signature

/-- The path of the class or of the method. -/
def path (s : AnnotationSite) : Text :=
  match s.signature? with
  | none => s.className
  | some signature => methodPath s.className signature

/-- Whether the class has a dotted name and the method, if there is one, plain names. -/
structure IsPlain (s : AnnotationSite) : Prop where
  className : IsDotted s.className
  method : ∀ m ∈ s.method?, m.IsPlain

variable {s t : AnnotationSite}

theorem path_onClass (h : s.signature? = none) : s.path = s.className := by
  rw [path, h]

theorem path_onMethod {signature : Text} (h : s.signature? = some signature) :
    s.path = s.className ++ ('#' : CodePoint) :: signature := by
  rw [path, h]
  exact List.append_assoc s.className "#" signature

theorem IsPlain.notMem_signature (h : s.IsPlain) {signature : Text}
    (hSignature : s.signature? = some signature) {c : CodePoint} (hMark : c ∈ pathMarks)
    (hOther : c ∉ (".?[],()" : Text)) : c ∉ signature := by
  obtain ⟨m, hMethod, rfl⟩ := Option.map_eq_some_iff.1 hSignature
  exact fun hMem => hOther (mem_signature (h.method m hMethod) hMem hMark)

theorem IsPlain.at_notMem (h : s.IsPlain) : ('@' : CodePoint) ∉ s.path := by
  have hClass := h.className.notMem (c := '@') (by decide) (by decide)
  cases hSignature : s.signature? with
  | none => rwa [path_onClass hSignature]
  | some signature =>
      have hMethod := h.notMem_signature hSignature (c := '@') (by decide) (by decide)
      rw [path_onMethod hSignature, List.mem_append, List.mem_cons]
      rintro (hMem | hMem | hMem)
      · exact hClass hMem
      · revert hMem
        decide
      · exact hMethod hMem

/-- The path tells the class and the signature. -/
theorem path_eq_iff (hs : s.IsPlain) (ht : t.IsPlain) :
    s.path = t.path ↔ s.className = t.className ∧ s.signature? = t.signature? := by
  have hClass {r : AnnotationSite} (hr : r.IsPlain) : ('#' : CodePoint) ∉ r.className :=
    hr.className.notMem (by decide) (by decide)
  constructor
  · intro h
    cases hFirst : s.signature? with
    | none =>
        cases hSecond : t.signature? with
        | none =>
            rw [path_onClass hFirst, path_onClass hSecond] at h
            exact ⟨h, rfl⟩
        | some signature =>
            rw [path_onClass hFirst, path_onMethod hSecond] at h
            exact absurd (h ▸ List.mem_append_right _ List.mem_cons_self) (hClass hs)
    | some signature =>
        cases hSecond : t.signature? with
        | none =>
            rw [path_onMethod hFirst, path_onClass hSecond] at h
            exact absurd (h ▸ List.mem_append_right _ List.mem_cons_self) (hClass ht)
        | some signature' =>
            rw [path_onMethod hFirst, path_onMethod hSecond] at h
            have hNoMark := hs.notMem_signature hFirst (c := '#') (by decide) (by decide)
            obtain ⟨hSame, -, hSignature⟩ :=
              (List.append_cons_inj_of_notMem (hClass hs) hNoMark).1 h
            exact ⟨hSame, congrArg some hSignature⟩
  · rintro ⟨hClass, hSignature⟩
    rw [path, path, hClass, hSignature]

end AnnotationSite

/-- An annotation whose owner is a class or method with a given path. -/
def AnnotationUse.StandsOn (a : AnnotationUse) (s : AnnotationSite) : Prop :=
  a.owner = s.path

/-- The path of an annotation tells what the annotation stands on and its own name. -/
theorem annotationPath_eq_iff {s t : AnnotationSite} {a b : AnnotationUse} (hs : s.IsPlain)
    (ha : a.StandsOn s) (hb : b.StandsOn t) (hName : IsDotted a.qualifiedName) :
    a.path = b.path ↔ s.path = t.path ∧ a.qualifiedName = b.qualifiedName := by
  have hPath {c : AnnotationUse} {r : AnnotationSite} (hc : c.StandsOn r) :
      c.path = r.path ++ ('@' : CodePoint) :: c.qualifiedName := by
    rw [AnnotationUse.path, hc]
    exact List.append_assoc r.path "@" c.qualifiedName
  rw [hPath ha, hPath hb,
    List.append_cons_inj_of_notMem hs.at_notMem (hName.notMem (by decide) (by decide))]
  simp only [true_and]

/-! ## Annotations of the model -/

section Model

variable {imports : ImportTable} {path filePath className : Text}

theorem AnnotatedAt.owner_eq {written : List AnnotationSyntax} {uses : List AnnotationUse}
    (h : AnnotatedAt imports path written uses) {a : AnnotationUse} (hMem : a ∈ uses) :
    a.owner = path := by
  obtain ⟨_, -, hOwner⟩ := exists_forall₂_iff.1 ⟨written, h.flip⟩ a hMem
  exact hOwner

/-- The annotations of a class stand on it. -/
theorem standsOn_class {own : List AnnotationSyntax} {members : List Declaration}
    {c : AnnotatedClass}
    (h : AnnotatedClass.ofSyntax imports filePath className own members = .ok c)
    {a : AnnotationUse} (hMem : a ∈ c.annotations) : a.StandsOn ⟨className, none⟩ := by
  obtain ⟨methods, -, h⟩ := bind_eq_ok_iff.1 h
  obtain ⟨annotations, hAnnotations, hResult⟩ := bind_eq_ok_iff.1 h
  obtain rfl := Except.ok.inj hResult
  exact (annotatedAt_of_mapM hAnnotations).owner_eq hMem

/-- The annotations of a method stand on it. -/
theorem standsOn_method {m : MethodSyntax} {method : AnnotatedMethod}
    (h : AnnotatedMethod.ofSyntax imports className m = .ok method) {a : AnnotationUse}
    (hMem : a ∈ method.annotations) : a.StandsOn ⟨className, some m⟩ := by
  have hMethod := AnnotatedMethod.isOf_ofSyntax h
  have hOwner := hMethod.annotations.owner_eq hMem
  rwa [AnnotatedMethod.path, hMethod.declaringClass, hMethod.signature] at hOwner

end Model

/-- What signatures and paths tell, as long as all names are Java identifiers, or made of such
names by dots.

* No mark occurs in an identifier of a source file.
* The dotted name of a type tells the pieces that it is made of.
* Two signatures are the same exactly if the methods have the same name and as many parameters,
  and these agree one by one in the dotted names of their types, if they have any, and in their
  dimensions, of which a variadic parameter has one more.
* The annotations that the model lists for a class or a method have it as owner.
* Two paths are the same exactly if the class, the signature or its absence, and the name of the
  annotation are. -/
theorem annotationPath_account :
    (∀ name, IsName name → IsPlain name) ∧
    (∀ t u : TypeRef, t.IsPlain → u.IsPlain →
      (t.dottedName = u.dottedName ↔ t.name = u.name ∧ t.inner = u.inner)) ∧
    (∀ m n : MethodSyntax, m.IsPlain → n.IsPlain →
      (signatureText m.name m.parameters = signatureText n.name n.parameters ↔
        m.name = n.name ∧ List.Forall₂ Parameter.Agrees m.parameters n.parameters)) ∧
    (∀ imports filePath className own members c,
      AnnotatedClass.ofSyntax imports filePath className own members = .ok c →
        ∀ a ∈ c.annotations, a.StandsOn ⟨className, none⟩) ∧
    (∀ imports className m method,
      AnnotatedMethod.ofSyntax imports className m = .ok method →
        ∀ a ∈ method.annotations, a.StandsOn ⟨className, some m⟩) ∧
    ∀ (s t : AnnotationSite) (a b : AnnotationUse), s.IsPlain → t.IsPlain →
      a.StandsOn s → b.StandsOn t → IsDotted a.qualifiedName →
        (a.path = b.path ↔ s.className = t.className ∧ s.signature? = t.signature? ∧
          a.qualifiedName = b.qualifiedName) := by
  refine ⟨fun name => isPlain_of_isName, fun t u => TypeRef.dottedName_eq_iff,
    fun m n => signature_eq_iff, fun imports filePath className own members c h a => ?_,
    fun imports className m method h a => standsOn_method h, ?_⟩
  · exact standsOn_class h
  · intro s t a b hs ht ha hb hName
    rw [annotationPath_eq_iff hs ha hb hName, AnnotationSite.path_eq_iff hs ht, and_assoc]

/-- The method `find(Map.Entry[] rows, String... names)`. -/
def findByNames : MethodSyntax :=
  ⟨"find", [⟨some ⟨"Map", ["Entry"], 1⟩, false⟩, ⟨some ⟨"String", [], 0⟩, true⟩], []⟩

/-- The method `find(Map.Entry[] rows, String[] names)`. -/
def findByNameArray : MethodSyntax :=
  ⟨"find", [⟨some ⟨"Map", ["Entry"], 1⟩, false⟩, ⟨some ⟨"String", [], 1⟩, false⟩], []⟩

/-- The method `find(Map.Entry[] rows, String name)`. -/
def findByName : MethodSyntax :=
  ⟨"find", [⟨some ⟨"Map", ["Entry"], 1⟩, false⟩, ⟨some ⟨"String", [], 0⟩, false⟩], []⟩

/-- An annotation on a method of the class `shop.Desk`. -/
def deskMapping (m : MethodSyntax) : AnnotationUse where
  name := "GetMapping"
  qualifiedName := "web.GetMapping"
  owner := methodPath "shop.Desk" (signatureText m.name m.parameters)
  arguments := .empty

/-- Methods with the same name are told apart in paths unless one is variadic where the other has
an array. -/
theorem deskMapping_told_by_path :
    (findByNames.IsPlain ∧ findByNameArray.IsPlain ∧ findByName.IsPlain) ∧
    signatureText "find" findByNames.parameters =
      signatureText "find" findByNameArray.parameters ∧
    signatureText "find" findByNames.parameters ≠ signatureText "find" findByName.parameters ∧
    (deskMapping findByNames).path = (deskMapping findByNameArray).path ∧
    (deskMapping findByNames).path ≠ (deskMapping findByName).path := by
  have hPlain : findByNames.IsPlain ∧ findByNameArray.IsPlain ∧ findByName.IsPlain := by decide
  obtain ⟨hNames, hArray, hOne⟩ := hPlain
  obtain ⟨-, -, hSignatures, -, -, hPaths⟩ := annotationPath_account
  have hSame : signatureText "find" findByNames.parameters =
      signatureText "find" findByNameArray.parameters :=
    (hSignatures findByNames findByNameArray hNames hArray).2
      ⟨rfl, .cons ⟨rfl, rfl⟩ (.cons ⟨rfl, rfl⟩ .nil)⟩
  have hOther : signatureText "find" findByNames.parameters ≠
      signatureText "find" findByName.parameters := by
    intro h
    obtain ⟨-, hAgree⟩ := (hSignatures findByNames findByName hNames hOne).1 h
    cases hAgree with
    | cons _ hRest =>
        cases hRest with
        | cons hLast _ => exact absurd hLast.rank (by decide)
  have hClass : IsDotted "shop.Desk" := by decide
  have hSite {m : MethodSyntax} (hm : m.IsPlain) :
      AnnotationSite.IsPlain ⟨"shop.Desk", some m⟩ := by
    refine ⟨hClass, fun m' hMem => ?_⟩
    rwa [← Option.mem_some_iff.1 hMem]
  have hDesk {m : MethodSyntax} (hm : m.IsPlain) :=
    hPaths ⟨"shop.Desk", some findByNames⟩ ⟨"shop.Desk", some m⟩ (deskMapping findByNames)
      (deskMapping m) (hSite hNames) (hSite hm) rfl rfl (by decide)
  refine ⟨⟨hNames, hArray, hOne⟩, hSame, hOther, ?_, ?_⟩
  · exact (hDesk hArray).2 ⟨rfl, congrArg some hSame, rfl⟩
  · intro h
    exact hOther (Option.some.inj ((hDesk hOne).1 h).2.1)

end SpringAudit

import SpringAudit.Proofs.Source.Escape
import SpringAudit.Source.OfSyntax

/-!
# When a syntax tree has no model

Making a model of a syntax tree decodes the string literals in the arguments of
certain annotations and fails on no other account.  This module lists the
literals that are decoded, level by level from expressions to whole trees, and
`isError_classes` shows that the conversion fails exactly if one of them has an
escape that lacks digits.

A chain of operators is decoded as far as it consists of `+`; all of its literals
count, even if it has another operand that makes the chain no constant.
-/

namespace SpringAudit

open Java

/-! ## The literals that are decoded -/

/-- The literals of a chain of `+`, from left to right. -/
def chainLiterals : Expression → List Text
  | .literal spelling _ _ => [spelling]
  | .binary operator left right =>
    if operator = "+" then chainLiterals left ++ chainLiterals right else []
  | _ => []

mutual

/-- The literals that are decoded for the value of an expression. -/
def decodedLiterals : Expression → List Text
  | .literal spelling _ _ => [spelling]
  | .elements items => decodedLiteralsAmong items
  | .arrayInitializer items => decodedLiteralsAmong items
  | .binary operator left right => chainLiterals (.binary operator left right)
  | _ => []

/-- The literals that are decoded for the values of several expressions. -/
def decodedLiteralsAmong : List Expression → List Text
  | [] => []
  | e :: rest => decodedLiterals e ++ decodedLiteralsAmong rest

end

/-- The literals that are decoded for the arguments of an annotation. -/
def literalsOfBody : AnnotationBody → List Text
  | .absent => []
  | .single value => decodedLiterals value
  | .pairs items => decodedLiteralsAmong (items.map Prod.snd)

/-- The annotations of a class and its own methods, given those of the class and its members. -/
def annotationsOfClass (own : List AnnotationSyntax) (members : List Declaration) :
    List AnnotationSyntax :=
  (methodsAmong members).flatMap MethodSyntax.annotations ++ own

mutual

/-- The annotations in a declaration that the model keeps: those of classes and of their own
methods, at any depth. -/
def keptAnnotations : Declaration → List AnnotationSyntax
  | .type kind _ own members =>
    (if kind = .classType then annotationsOfClass own members else []) ++
      keptAnnotationsAmong members
  | .method _ => []
  | .other => []

/-- The annotations in several declarations that the model keeps. -/
def keptAnnotationsAmong : List Declaration → List AnnotationSyntax
  | [] => []
  | declaration :: rest => keptAnnotations declaration ++ keptAnnotationsAmong rest

end

/-- An annotation with a literal that cannot be decoded. -/
def Java.AnnotationSyntax.Undecodable (a : AnnotationSyntax) : Prop :=
  ∃ spelling ∈ literalsOfBody a.body, UndecodableLiteral spelling

/-- A syntax tree with an annotation that the model keeps but cannot decode. -/
def Java.CompilationUnit.Undecodable (tree : CompilationUnit) : Prop :=
  ∃ a ∈ keptAnnotationsAmong tree.declarations, a.Undecodable

/-! ## Expressions -/

theorem exists_mem_append {α : Type} {p : α → Prop} {first second : List α} :
    (∃ a ∈ first ++ second, p a) ↔ (∃ a ∈ first, p a) ∨ ∃ a ∈ second, p a := by
  simp only [List.mem_append, or_and_right, exists_or]

/-- A chain fails exactly if one of its literals does. -/
theorem isError_foldConcatenation (e : Expression) :
    IsError (foldConcatenation e) ↔
      ∃ spelling ∈ chainLiterals e, UndecodableLiteral spelling := by
  induction e using foldConcatenation.induct with
  | case1 spelling prefixes selectors =>
      simp [foldConcatenation, chainLiterals, isError_stringValue?]
  | case2 left right ihLeft ihRight =>
      rw [foldConcatenation, if_pos rfl, chainLiterals, if_pos rfl, exists_mem_append,
        ← ihLeft, ← ihRight]
      exact isError_bind_of_iff fun _ => isError_bind_pure
  | case3 operator left right hOther =>
      simp [foldConcatenation, chainLiterals, hOther]
  | case4 e hLiteral hBinary =>
      cases e with
      | literal spelling prefixes selectors => exact absurd rfl (hLiteral _ _ _)
      | binary operator left right => exact absurd rfl (hBinary _ _ _)
      | _ => simp [foldConcatenation, chainLiterals]

mutual

/-- The value of an expression fails exactly if a literal that it decodes does. -/
theorem isError_ofExpression : (e : Expression) →
    (IsError (ArgumentValue.ofExpression e) ↔
      ∃ spelling ∈ decodedLiterals e, UndecodableLiteral spelling)
  | .literal spelling prefixes selectors => by
      rw [ArgumentValue.ofExpression, isError_bind_of_total, isError_stringValue?]
      · simp [decodedLiterals]
      · rintro (_ | text)
        · exact not_isError_ok _
        · by_cases hPrefixes : prefixes.isEmpty
          · simp [hPrefixes, pure, Except.pure]
          · simp [hPrefixes, pure, Except.pure]
  | .elements items => by
      rw [ArgumentValue.ofExpression, isError_bind_pure, decodedLiterals]
      exact isError_ofExpressions items
  | .arrayInitializer items => by
      rw [ArgumentValue.ofExpression, isError_bind_pure, decodedLiterals]
      exact isError_ofExpressions items
  | .binary operator left right => by
      rw [ArgumentValue.ofExpression, isError_bind_of_total, isError_foldConcatenation,
        decodedLiterals]
      rintro (_ | text)
      · exact not_isError_ok _
      · exact not_isError_ok _
  | .reference qualifier member prefixes selectors => by
      cases selectors <;> simp [ArgumentValue.ofExpression, decodedLiterals]
  | .missing => by simp [ArgumentValue.ofExpression, decodedLiterals]
  | .call _ _ _ _ _ => by simp [ArgumentValue.ofExpression, decodedLiterals]
  | .emptyBraces => by simp [ArgumentValue.ofExpression, decodedLiterals]
  | .annotationUse _ => by simp [ArgumentValue.ofExpression, decodedLiterals]
  | .other _ => by simp [ArgumentValue.ofExpression, decodedLiterals]

/-- The values of several expressions fail exactly if one of them does. -/
theorem isError_ofExpressions : (items : List Expression) →
    (IsError (ArgumentValue.ofExpressions items) ↔
      ∃ spelling ∈ decodedLiteralsAmong items, UndecodableLiteral spelling)
  | [] => by simp [ArgumentValue.ofExpressions, decodedLiteralsAmong]
  | e :: rest => by
      rw [ArgumentValue.ofExpressions, decodedLiteralsAmong, exists_mem_append,
        ← isError_ofExpression e, ← isError_ofExpressions rest]
      exact isError_bind_of_iff fun _ => isError_bind_pure

end

/-- Several expressions are converted one after another. -/
theorem ofExpressions_eq_mapM (items : List Expression) :
    ArgumentValue.ofExpressions items = items.mapM ArgumentValue.ofExpression := by
  induction items with
  | nil => rfl
  | cons e rest ih => rw [ArgumentValue.ofExpressions, List.mapM_cons, ih]

/-! ## Annotations, methods and classes -/

theorem isError_argumentsOfBody (body : AnnotationBody) :
    IsError (argumentsOfBody body) ↔
      ∃ spelling ∈ literalsOfBody body, UndecodableLiteral spelling := by
  cases body with
  | absent => simp [argumentsOfBody, literalsOfBody]
  | single value =>
      rw [argumentsOfBody, isError_bind_pure]
      exact isError_ofExpression value
  | pairs items =>
      rw [argumentsOfBody, isError_bind_pure]
      exact isError_ofExpressions (items.map Prod.snd)

theorem isError_annotationUse (imports : ImportTable) (owner : Text) (a : AnnotationSyntax) :
    IsError (AnnotationUse.ofSyntax imports owner a) ↔ a.Undecodable := by
  rw [AnnotationUse.ofSyntax, isError_bind_pure]
  exact isError_argumentsOfBody a.body

theorem isError_method (imports : ImportTable) (declaringClass : Text) (m : MethodSyntax) :
    IsError (AnnotatedMethod.ofSyntax imports declaringClass m) ↔
      ∃ a ∈ m.annotations, a.Undecodable := by
  rw [AnnotatedMethod.ofSyntax, isError_bind_pure, isError_mapM]
  simp only [isError_annotationUse]

theorem isError_class (imports : ImportTable) (filePath qualifiedName : Text)
    (own : List AnnotationSyntax) (members : List Declaration) :
    IsError (AnnotatedClass.ofSyntax imports filePath qualifiedName own members) ↔
      ∃ a ∈ annotationsOfClass own members, a.Undecodable := by
  have hOwn : IsError (own.mapM (AnnotationUse.ofSyntax imports qualifiedName)) ↔
      ∃ a ∈ own, a.Undecodable := by
    simp only [isError_mapM, isError_annotationUse]
  have hMethods : IsError ((methodsAmong members).mapM
      (AnnotatedMethod.ofSyntax imports qualifiedName)) ↔
      ∃ a ∈ (methodsAmong members).flatMap MethodSyntax.annotations, a.Undecodable := by
    simp only [isError_mapM, isError_method, List.mem_flatMap]
    constructor
    · rintro ⟨m, hMethod, a, hUse, hUndecodable⟩
      exact ⟨a, ⟨m, hMethod, hUse⟩, hUndecodable⟩
    · rintro ⟨a, ⟨m, hMethod, hUse⟩, hUndecodable⟩
      exact ⟨m, hMethod, a, hUse, hUndecodable⟩
  rw [AnnotatedClass.ofSyntax, annotationsOfClass, exists_mem_append, ← hOwn, ← hMethods]
  exact isError_bind_of_iff fun _ => isError_bind_pure

/-! ## Declarations and whole trees -/

mutual

/-- The classes in a declaration fail exactly if an annotation that they keep does. -/
theorem isError_classesIn (imports : ImportTable) (filePath : Text) :
    (enclosing : Text) → (declaration : Declaration) →
      (IsError (classesIn imports filePath enclosing declaration) ↔
        ∃ a ∈ keptAnnotations declaration, a.Undecodable)
  | enclosing, .type kind name own members => by
      have hMembers := isError_classesAmong imports filePath (qualify enclosing name) members
      rw [classesIn, keptAnnotations, exists_mem_append, ← hMembers]
      -- Interfaces, enums and annotation types are passed through to their members.
      by_cases hClass : kind = .classType
      · rw [if_pos hClass, if_pos hClass,
          ← isError_class imports filePath (qualify enclosing name) own members]
        exact (isError_bind_of_iff fun _ => isError_bind_pure).trans
          (or_congr_left isError_map)
      · rw [if_neg hClass, if_neg hClass]
        exact (isError_bind_of_iff fun _ => isError_bind_pure).trans
          (or_congr_left (by simp))
  | _, .method _ => by simp [classesIn, keptAnnotations]
  | _, .other => by simp [classesIn, keptAnnotations]

/-- The classes in several declarations fail exactly if those in one of them do. -/
theorem isError_classesAmong (imports : ImportTable) (filePath : Text) :
    (enclosing : Text) → (declarations : List Declaration) →
      (IsError (classesAmong imports filePath enclosing declarations) ↔
        ∃ a ∈ keptAnnotationsAmong declarations, a.Undecodable)
  | _, [] => by simp [classesAmong, keptAnnotationsAmong]
  | enclosing, declaration :: rest => by
      rw [classesAmong, keptAnnotationsAmong, exists_mem_append,
        ← isError_classesIn imports filePath enclosing declaration,
        ← isError_classesAmong imports filePath enclosing rest]
      exact isError_bind_of_iff fun _ => isError_bind_pure

end

/-- Making the classes of a tree fails exactly if the tree has an annotation that the model
keeps and whose literals cannot all be decoded. -/
theorem isError_classes (filePath : Text) {tree : CompilationUnit} :
    IsError (CompilationUnit.classes filePath tree) ↔ tree.Undecodable :=
  isError_classesAmong (.ofImports tree.imports) filePath (tree.package.getD []) tree.declarations

end SpringAudit

import SpringAudit.Proofs.Java.Parser.Progress
import SpringAudit.Proofs.OrderedMap.Writes
import SpringAudit.Proofs.Source.Constant

/-!
# Arrays in annotation arguments

An array of an annotation argument becomes a list with as many elements, at every
level of nesting (`sameArrays_ofExpression`), unless it is empty.  Braces with nothing
between them have a tree of their own, and this is not taken for an array: as the
only value of an annotation they count as no argument at all, and as a named argument
or inside another array they are kept as text, which a mapping reports
(`arrays_account`).
-/

namespace SpringAudit

open Java

/-! ## The tree of an array -/

/-- The tree of an annotation argument that is written as expressions between braces. -/
def Java.Expression.braces : List Expression → Expression
  | [] => .emptyBraces
  | first :: rest => .elements (first :: rest)

namespace Java.Parser

variable {within : Phrases} {bound : Nat} {here after : ParserState}

/-- An array that is parsed is the tree of the expressions between its braces. -/
theorem elementArray_eq_braces {e : Expression}
    (h : elementArray within bound here = .ok (e, after)) : ∃ items, e = .braces items := by
  obtain ⟨-, opened, -, h⟩ := run_bind_eq_ok_iff.1 h
  obtain ⟨closed, between, -, h⟩ := run_bind_eq_ok_iff.1 h
  cases closed with
  | true =>
      obtain ⟨rfl, -⟩ := Prod.mk.inj (Except.ok.inj h)
      exact ⟨[], rfl⟩
  | false =>
      obtain ⟨first, afterFirst, -, h⟩ := run_bind_eq_ok_iff.1 h
      obtain ⟨more, afterMore, -, h⟩ := run_bind_eq_ok_iff.1 h
      obtain ⟨-, afterComma, -, h⟩ := run_bind_eq_ok_iff.1 h
      obtain ⟨-, afterAll, -, h⟩ := run_bind_eq_ok_iff.1 h
      obtain ⟨rfl, -⟩ := Prod.mk.inj (Except.ok.inj h)
      exact ⟨first :: more, rfl⟩

/-- Empty braces are never the only value of an annotation. -/
theorem annotationBody_ne_emptyBraces {body : AnnotationBody}
    (h : annotationBody within bound here = .ok (body, after)) :
    body ≠ .single .emptyBraces := by
  rintro rfl
  obtain ⟨absent, between, -, h⟩ := run_bind_eq_ok_iff.1 h
  cases absent with
  | true => cases h
  | false =>
      obtain ⟨named, between, -, h⟩ := run_bind_eq_ok_iff.1 h
      cases named with
      | true =>
          obtain ⟨items, afterPairs, -, h⟩ := run_bind_eq_ok_iff.1 h
          cases h
      | false =>
          obtain ⟨value, afterValue, -, h⟩ := run_bind_eq_ok_iff.1 h
          cases value <;> cases h

end Java.Parser

/-! ## The value of an array -/

/-- A value has lists where an expression has arrays, with the same number of elements at
every level. -/
inductive SameArrays : Expression → ArgumentValue → Prop where
  | array {e : Expression} {items : List Expression} {values : List ArgumentValue}
      (hArray : e = .elements items ∨ e = .arrayInitializer items)
      (hItems : List.Forall₂ SameArrays items values) : SameArrays e (.list values)
  | noArray {e : Expression} {value : ArgumentValue} (hArray : ¬ e.IsArray)
      (hList : ∀ values, value ≠ .list values) : SameArrays e value

/-- What is no array does not become a list. -/
theorem SameArrays.of_not_isArray {e : Expression} {value : ArgumentValue}
    (h : ArgumentValue.ofExpression e = .ok value) (hArray : ¬ e.IsArray) :
    SameArrays e value := by
  refine .noArray hArray ?_
  rintro values rfl
  rcases ofExpression_cases h with
    ⟨hIsArray, -⟩ | ⟨qualifier, name, prefixes, -, hConstant⟩ | ⟨text, -, -, hLiteral⟩ | hOther
  · exact hArray hIsArray
  · cases hConstant
  · cases hLiteral
  · cases hOther

mutual

/-- A value that is made of an expression has its arrays. -/
theorem sameArrays_ofExpression : (e : Expression) → {value : ArgumentValue} →
    ArgumentValue.ofExpression e = .ok value → SameArrays e value
  | .elements items, value => fun h => by
      rw [ArgumentValue.ofExpression, bind_eq_ok_iff] at h
      obtain ⟨values, hValues, hValue⟩ := h
      obtain rfl := Except.ok.inj hValue
      exact .array (.inl rfl) (sameArrays_ofExpressions items hValues)
  | .arrayInitializer items, value => fun h => by
      rw [ArgumentValue.ofExpression, bind_eq_ok_iff] at h
      obtain ⟨values, hValues, hValue⟩ := h
      obtain rfl := Except.ok.inj hValue
      exact .array (.inr rfl) (sameArrays_ofExpressions items hValues)
  | .missing, value => fun h => .of_not_isArray h (by simp [Expression.IsArray])
  | .literal _ _ _, value => fun h => .of_not_isArray h (by simp [Expression.IsArray])
  | .reference _ _ _ _, value => fun h => .of_not_isArray h (by simp [Expression.IsArray])
  | .call _ _ _ _ _, value => fun h => .of_not_isArray h (by simp [Expression.IsArray])
  | .binary _ _ _, value => fun h => .of_not_isArray h (by simp [Expression.IsArray])
  | .emptyBraces, value => fun h => .of_not_isArray h (by simp [Expression.IsArray])
  | .annotationUse _, value => fun h => .of_not_isArray h (by simp [Expression.IsArray])
  | .other _, value => fun h => .of_not_isArray h (by simp [Expression.IsArray])

/-- So have the values of several expressions, one by one. -/
theorem sameArrays_ofExpressions : (items : List Expression) → {values : List ArgumentValue} →
    ArgumentValue.ofExpressions items = .ok values → List.Forall₂ SameArrays items values
  | [], values => fun h => by
      obtain rfl := Except.ok.inj h
      exact .nil
  | e :: rest, values => fun h => by
      rw [ArgumentValue.ofExpressions, bind_eq_ok_iff] at h
      obtain ⟨value, hValue, h⟩ := h
      obtain ⟨more, hMore, h⟩ := bind_eq_ok_iff.1 h
      obtain rfl := Except.ok.inj h
      exact .cons (sameArrays_ofExpression e hValue) (sameArrays_ofExpressions rest hMore)

end

/-- Braces around at least one expression become a list of the values of the expressions. -/
theorem ofExpression_braces {items : List Expression} {value : ArgumentValue}
    (h : ArgumentValue.ofExpression (.braces items) = .ok value) (hSome : items ≠ []) :
    ∃ values, value = .list values ∧
      List.Forall₂ (fun e v => ArgumentValue.ofExpression e = .ok v) items values := by
  cases items with
  | nil => exact absurd rfl hSome
  | cons first rest =>
      rw [Expression.braces, ArgumentValue.ofExpression, bind_eq_ok_iff] at h
      obtain ⟨values, hValues, hValue⟩ := h
      rw [ofExpressions_eq_mapM, mapM_eq_ok_iff] at hValues
      exact ⟨values, (Except.ok.inj hValue).symm, hValues⟩

/-! ## The argument with an array -/

/-- What belongs to an element in the middle of a list stands in the middle as well. -/
theorem exists_of_forall₂_append_cons {α β : Type} {R : α → β → Prop} {front back : List α}
    {a : α} {results : List β} (h : List.Forall₂ R (front ++ a :: back) results) :
    ∃ first b last, results = first ++ b :: last ∧ front.length = first.length ∧ R a b := by
  obtain ⟨first, second, hFront, hBack, rfl⟩ := exists_append_of_forall₂ h
  obtain ⟨b, last, hHere, -, rfl⟩ := List.forall₂_cons_left_iff.1 hBack
  exact ⟨first, b, last, rfl, hFront.length_eq, hHere⟩

variable {imports : ImportTable} {owner marker name : Text} {a : AnnotationUse}

/-- A named argument has the value of the last expression with its name. -/
theorem argument_of_pairs {front back : List (Text × Expression)} {e : Expression}
    (hLast : name ∉ back.map Prod.fst)
    (h : AnnotationUse.ofSyntax imports owner
      ⟨marker, .pairs (front ++ (name, e) :: back)⟩ = .ok a) :
    ArgumentValue.ofExpression e = .ok (a.argument name) := by
  obtain ⟨arguments, hArguments, hUse⟩ := bind_eq_ok_iff.1 h
  obtain rfl := Except.ok.inj hUse
  rw [argumentsOfBody, bind_eq_ok_iff] at hArguments
  obtain ⟨values, hValues, hMap⟩ := hArguments
  obtain rfl := Except.ok.inj hMap
  rw [ofExpressions_eq_mapM, mapM_eq_ok_iff, List.map_append, List.map_cons] at hValues
  obtain ⟨first, value, last, rfl, hLength, hValue⟩ := exists_of_forall₂_append_cons hValues
  have hNames : name ∉ ((back.map Prod.fst).zip last).map Prod.fst := by
    intro hMem
    obtain ⟨⟨found, v⟩, hZip, rfl⟩ := List.mem_map.1 hMem
    exact hLast (List.of_mem_zip hZip).1
  have hLengths : (front.map Prod.fst).length = first.length := by
    simpa using hLength
  rw [AnnotationUse.argument, List.map_append, List.map_cons, List.zip_append hLengths,
    List.zip_cons_cons, OrderedMap.get?_ofList, OrderedMap.lastValue?_append_cons hNames]
  exact hValue

/-! ## What a mapping makes of it -/

/-- An HTTP method that is kept as text is reported. -/
theorem AnnotationUse.httpMethods_of_expression {text : Text}
    (h : a.argument "method" = .expression text) :
    a.httpMethods none = .error (.unexpectedMethod (.expression text)) := by
  rw [httpMethods, h]
  rfl

/-- An argument that is kept as text and may hold the URL is the URL. -/
theorem AnnotationUse.urlArgument_of_expression {text : Text}
    (h : a.argument name = .expression text)
    (hUrl : name = "value" ∨ name = "path" ∧ a.argument "value" = .absent) :
    a.urlArgument = .expression text := by
  rcases hUrl with rfl | ⟨rfl, hNoValue⟩
  · rw [urlArgument, h]
  · rw [urlArgument, hNoValue, h]

/-- What an empty list, or no argument at all, stands for: the empty URL and all HTTP methods. -/
theorem AnnotationUse.resolved_of_nothing (a : AnnotationUse) :
    (a.urlArgument = .absent ∨ a.urlArgument = .list [] → a.urls = .ok [[]]) ∧
    (a.argument "method" = .absent ∨ a.argument "method" = .list [] →
      a.httpMethods none = .ok defaultHttpMethods) := by
  constructor
  · rintro (h | h)
    · rw [urls, h]
      rfl
    · rw [urls, h]
      rfl
  · rintro (h | h)
    · rw [httpMethods, h]
      rfl
    · rw [httpMethods, h]
      rfl

/-- Arrays in annotation arguments.

* An array that is parsed is the tree of the expressions between its braces; empty braces are
  never the only value of an annotation.
* A named argument with braces is converted unless a literal in the annotation cannot be
  decoded.  Braces around expressions become the list of their values, as many and in order.
  Empty braces do not become a list: they are kept as text, and a mapping with them as URL or
  HTTP method is reported.
* An annotation without arguments, which is what bare empty braces give, stands for the empty
  URL and all HTTP methods, as an empty list would.
* At every level there are lists of the same length for arrays, and for nothing else. -/
theorem arrays_account (imports : ImportTable) (owner marker : Text) :
    ((∀ within bound here after e,
        Parser.elementArray within bound here = .ok (e, after) → ∃ items, e = .braces items) ∧
      ∀ within bound here after body,
        Parser.annotationBody within bound here = .ok (body, after) →
          body ≠ .single (.braces [])) ∧
    (∀ front back name items, name ∉ back.map Prod.fst →
      ((∃ a, AnnotationUse.ofSyntax imports owner
          ⟨marker, .pairs (front ++ (name, .braces items) :: back)⟩ = .ok a) ↔
        ¬ AnnotationSyntax.Undecodable
          ⟨marker, .pairs (front ++ (name, .braces items) :: back)⟩) ∧
      ∀ a, AnnotationUse.ofSyntax imports owner
          ⟨marker, .pairs (front ++ (name, .braces items) :: back)⟩ = .ok a →
        (items ≠ [] → ∃ values, a.argument name = .list values ∧
          values.length = items.length ∧
          List.Forall₂ (fun e v => ArgumentValue.ofExpression e = .ok v) items values) ∧
        (items = [] → a.argument name = .expression "list" ∧
          (name = "value" ∨ name = "path" ∧ a.argument "value" = .absent →
            a.urls = .error (.invalidUrl (.expression "list"))) ∧
          (name = "method" →
            a.httpMethods none = .error (.unexpectedMethod (.expression "list"))))) ∧
    ((∀ a, AnnotationUse.ofSyntax imports owner ⟨marker, .pairs []⟩ = .ok a →
        a.urls = .ok [[]] ∧ a.httpMethods none = .ok defaultHttpMethods) ∧
      ∀ a : AnnotationUse,
        (a.urlArgument = .list [] → a.urls = .ok [[]]) ∧
        (a.argument "method" = .list [] → a.httpMethods none = .ok defaultHttpMethods)) ∧
    ∀ e value, ArgumentValue.ofExpression e = .ok value → SameArrays e value := by
  refine ⟨⟨fun within bound here after e => Parser.elementArray_eq_braces,
    fun within bound here after body => Parser.annotationBody_ne_emptyBraces⟩, ?_, ⟨?_, ?_⟩,
    fun e value => sameArrays_ofExpression e⟩
  · intro front back name items hLast
    constructor
    · rw [← not_isError_iff, isError_annotationUse]
    · intro a hUse
      have hValue := argument_of_pairs hLast hUse
      constructor
      · intro hSome
        obtain ⟨values, hList, hValues⟩ := ofExpression_braces hValue hSome
        exact ⟨values, hList, hValues.length_eq.symm, hValues⟩
      · rintro rfl
        have hText : a.argument name = .expression "list" := (Except.ok.inj hValue).symm
        refine ⟨hText, fun hUrl => ?_, ?_⟩
        · exact AnnotationUse.urls_of_expression
            (AnnotationUse.urlArgument_of_expression hText hUrl)
        · rintro rfl
          exact AnnotationUse.httpMethods_of_expression hText
  · intro a hUse
    obtain rfl := Except.ok.inj hUse
    exact ⟨rfl, rfl⟩
  · intro a
    obtain ⟨hUrls, hMethods⟩ := a.resolved_of_nothing
    exact ⟨fun h => hUrls (.inr h), fun h => hMethods (.inr h)⟩

/-- The arguments of `@RequestMapping(value = {"/a", {"/b"}}, method = {})`. -/
def shopArrays : List (Text × Expression) :=
  [("value", .braces [.literal "\"/a\"" [] [], .braces [.literal "\"/b\"" [] []]]),
    ("method", .braces [])]

/-- The array keeps its two elements, and the empty one is reported. -/
theorem shopArrays_account :
    ∃ a, AnnotationUse.ofSyntax .empty "shop" ⟨"RequestMapping", .pairs shopArrays⟩ = .ok a ∧
      (∃ values, a.argument "value" = .list values ∧ values.length = 2) ∧
      a.httpMethods none = .error (.unexpectedMethod (.expression "list")) := by
  obtain ⟨-, hNamed, -⟩ := arrays_account .empty "shop" "RequestMapping"
  obtain ⟨-, hFirst⟩ := hNamed [] [("method", .braces [])] "value"
    [.literal "\"/a\"" [] [], .braces [.literal "\"/b\"" [] []]] (by decide)
  obtain ⟨-, hSecond⟩ := hNamed [("value", .braces [.literal "\"/a\"" [] [],
    .braces [.literal "\"/b\"" [] []]])] [] "method" [] (by simp)
  refine ⟨_, rfl, ?_, ((hSecond _ rfl).2 rfl).2.2 rfl⟩
  obtain ⟨values, hList, hLength, -⟩ := (hFirst _ rfl).1 (List.cons_ne_nil _ _)
  exact ⟨values, hList, hLength⟩

/-- A named argument with empty braces is not converted to an empty list. -/
theorem emptyArray_not_list :
    ∃ a, AnnotationUse.ofSyntax .empty "shop"
        ⟨"GetMapping", .pairs [("value", .braces [])]⟩ = .ok a ∧
      a.argument "value" ≠ .list [] ∧ a.urls = .error (.invalidUrl (.expression "list")) := by
  refine ⟨_, rfl, ?_, rfl⟩
  intro h
  cases h

end SpringAudit

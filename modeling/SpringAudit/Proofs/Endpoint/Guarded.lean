import SpringAudit.Proofs.Endpoint.Emission
import SpringAudit.Proofs.Source.Constant
import SpringAudit.Proofs.Text.Basic
import SpringAudit.Report.Table

/-!
# Which endpoints are guarded

An endpoint counts as guarded if one of its four guard texts is not empty.  These texts are
made of the arguments of guard annotations, so the question is which arguments give the empty
text: only a constant string that is empty itself (`guardText_eq_nil_iff`).  Any other
expression has a source form with at least one character, because its own tokens have one
(`renderExpression_ne_nil`).

From there the proof follows the last annotation of each kind through the conversion of a
method (`lastGuardText_ne_nil_iff`).  The main theorem, `isGuarded_iff_hasEffectiveGuard`, also
says that the report marks exactly the endpoints that are kept when the guarded ones are left
out.
-/

namespace SpringAudit

open Java

/-! ## Guards as they are written -/

/-- Whether the expression is there and its own name, spelling or kind is not empty. -/
def Java.Expression.HasTokens : Expression → Prop
  | .missing => False
  | .literal spelling _ _ => spelling ≠ []
  | .reference _ member _ _ => member ≠ []
  | .other kind => kind ≠ []
  | _ => True

/-- The expression of the argument `value`; of several with this name the last one counts. -/
def Java.AnnotationBody.value? : AnnotationBody → Option Expression
  | .absent => none
  | .single value => some value
  | .pairs items => OrderedMap.lastValue? items "value"

/-- Whether the simple name of the annotation is that of a kind of guards. -/
def Java.AnnotationSyntax.isGuard (kind : GuardKind) (a : AnnotationSyntax) : Bool :=
  decide (Text.afterLast '.' a.name = kind.name)

/-- The last annotation of a method that is a guard of a kind. -/
def Java.MethodSyntax.lastGuard? (m : MethodSyntax) (kind : GuardKind) :
    Option AnnotationSyntax :=
  (m.annotations.filter (·.isGuard kind)).getLast?

/-- Whether the last guard of some kind has an argument that is not the empty string. -/
def Java.MethodSyntax.HasEffectiveGuard (m : MethodSyntax) : Prop :=
  ∃ kind a e, m.lastGuard? kind = some a ∧ a.body.value? = some e ∧
    ArgumentValue.ofExpression e ≠ .ok (.literal [])

/-! ## The text of a guard -/

section Expressions

variable {e : Expression} {value : ArgumentValue}

theorem qualify_ne_nil {qualifier name : Text} (h : name ≠ []) : qualify qualifier name ≠ [] := by
  unfold qualify
  split
  · exact h
  · simp [h]

/-- The source form of an expression has a character. -/
theorem renderExpression_ne_nil (h : e.HasTokens) : renderExpression e ≠ [] := by
  cases e with
  | missing => exact absurd h id
  | literal spelling prefixes selectors =>
      rw [renderExpression]
      exact List.append_ne_nil_of_right_ne_nil _ h
  | reference qualifier member prefixes selectors =>
      rw [renderExpression]
      exact qualify_ne_nil h
  | other kind => exact h
  -- The other forms have a character of their own: a bracket, a blank, a sign or a letter.
  | call qualifier member arguments prefixes selectors =>
      simp [renderExpression, Text.ofString_eq_nil_iff]
  | binary operator left right =>
      simp [renderExpression, Text.ofString_eq_nil_iff]
  | elements items => simp [renderExpression, Text.ofString_eq_nil_iff]
  | arrayInitializer items =>
      simp [renderExpression, Text.ofString_eq_nil_iff]
  | emptyBraces => simp [renderExpression, Text.ofString_eq_nil_iff]
  | annotationUse name => simp [renderExpression, Text.ofString_eq_nil_iff]

theorem guardText_list_ne_nil (values : List ArgumentValue) :
    (ArgumentValue.list values).guardText ≠ [] := by
  show (ArgumentValue.list values).describe ≠ []
  simp [ArgumentValue.describe, Text.ofString_eq_nil_iff]

/-- The only guard text that is empty is that of the empty string. -/
theorem guardText_eq_nil_iff (hValue : ArgumentValue.ofExpression e = .ok value)
    (hTokens : e.HasTokens) : value.guardText = [] ↔ value = .literal [] := by
  constructor
  · intro hEmpty
    rcases ofExpression_cases hValue with
      ⟨-, values, rfl⟩ | ⟨qualifier, name, prefixes, rfl, rfl⟩ | ⟨text, -, -, rfl⟩ | rfl
    · exact absurd hEmpty (guardText_list_ne_nil values)
    · exact absurd hEmpty (qualify_ne_nil hTokens)
    · exact congrArg ArgumentValue.literal hEmpty
    · exact absurd hEmpty (renderExpression_ne_nil hTokens)
  · rintro rfl
    rfl

end Expressions

/-! ## The last guard of a kind -/

section Conversion

variable {imports : ImportTable} {owner declaringClass : Text} {m : MethodSyntax}
  {method : AnnotatedMethod} {kind : GuardKind}

/-- What an annotation marks can be read off its simple name before it is converted. -/
theorem marker?_of_ofSyntax {a : AnnotationSyntax} {use : AnnotationUse}
    (h : AnnotationUse.ofSyntax imports owner a = .ok use) :
    use.marker? = Marker.ofName? (Text.afterLast '.' a.name) := by
  obtain ⟨arguments, -, hUse⟩ := bind_eq_ok_iff.1 h
  obtain rfl := Except.ok.inj hUse
  rfl

/-- Names are put back to the values of their expressions. -/
theorem forall₂_zip_values {items : List (Text × Expression)} {values : List ArgumentValue}
    (h : List.Forall₂ (fun item value => ArgumentValue.ofExpression item.2 = .ok value)
      items values) :
    List.Forall₂ (fun item entry => item.1 = entry.1 ∧
      ArgumentValue.ofExpression item.2 = .ok entry.2) items ((items.map Prod.fst).zip values) := by
  induction h with
  | nil => exact .nil
  | cons hValue _ ih => exact .cons ⟨rfl, hValue⟩ ih

/-- The last value with a name is that of the last expression with the name. -/
theorem rel_lastValue? {items : List (Text × Expression)} {values : List ArgumentValue}
    (h : ArgumentValue.ofExpressions (items.map Prod.snd) = .ok values) (name : Text) :
    Option.Rel (fun e value => ArgumentValue.ofExpression e = .ok value)
      (OrderedMap.lastValue? items name)
      (OrderedMap.lastValue? ((items.map Prod.fst).zip values) name) := by
  rw [ofExpressions_eq_mapM, mapM_eq_ok_iff, List.forall₂_map_left_iff] at h
  refine rel_map (rel_getLast? (List.rel_filter ?_ (forall₂_zip_values h))) ?_
  · rintro item entry ⟨hName, -⟩
    simp only [hName]
  · rintro item entry ⟨-, hValue⟩
    exact hValue

/-- The argument `value` of an annotation is the value of its expression. -/
theorem rel_argument {a : AnnotationSyntax} {use : AnnotationUse}
    (h : AnnotationUse.ofSyntax imports owner a = .ok use) :
    Option.Rel (fun e value => ArgumentValue.ofExpression e = .ok value) a.body.value?
      (use.arguments.get? "value") := by
  obtain ⟨arguments, hArguments, hUse⟩ := bind_eq_ok_iff.1 h
  obtain rfl := Except.ok.inj hUse
  show Option.Rel _ a.body.value? (arguments.get? "value")
  cases hBody : a.body with
  | absent =>
      rw [hBody] at hArguments
      obtain rfl := Except.ok.inj hArguments
      exact .none
  | single e =>
      rw [hBody] at hArguments
      obtain ⟨value, hValue, hMap⟩ := bind_eq_ok_iff.1 hArguments
      obtain rfl := Except.ok.inj hMap
      exact .some hValue
  | pairs items =>
      rw [hBody] at hArguments
      obtain ⟨values, hValues, hMap⟩ := bind_eq_ok_iff.1 hArguments
      obtain rfl := Except.ok.inj hMap
      rw [OrderedMap.get?_ofList]
      exact rel_lastValue? hValues _

/-- The text of an annotation's argument is empty only if it has no argument, or has the empty
string. -/
theorem guardText_argument_ne_nil_iff {a : AnnotationSyntax} {use : AnnotationUse}
    (h : AnnotationUse.ofSyntax imports owner a = .ok use)
    (hTokens : ∀ e, a.body.value? = some e → e.HasTokens) :
    (use.argument "value").guardText ≠ [] ↔
      ∃ e, a.body.value? = some e ∧ ArgumentValue.ofExpression e ≠ .ok (.literal []) := by
  have hRel := rel_argument h
  rw [AnnotationUse.argument]
  generalize a.body.value? = written at hRel hTokens
  generalize use.arguments.get? "value" = found at hRel
  cases hRel with
  | none => simp [ArgumentValue.guardText]
  | @some e value hValue =>
      rw [Option.getD_some, Ne, guardText_eq_nil_iff hValue (hTokens e rfl)]
      simp [hValue]

/-- The guards of a kind are converted one by one, and so the last one is. -/
theorem rel_lastGuard? (h : AnnotatedMethod.ofSyntax imports declaringClass m = .ok method)
    (kind : GuardKind) :
    Option.Rel (fun a use => ∃ owner, AnnotationUse.ofSyntax imports owner a = .ok use)
      (m.lastGuard? kind)
      (method.annotations.filter fun a => decide (a.marker? = some (.guard kind))).getLast? := by
  obtain ⟨annotations, hAnnotations, hMethod⟩ := bind_eq_ok_iff.1 h
  obtain rfl := Except.ok.inj hMethod
  refine rel_getLast? (List.rel_filter ?_ ((mapM_eq_ok_iff.1 hAnnotations).imp ?_))
  · rintro a use ⟨owner, hUse⟩
    simp only [AnnotationSyntax.isGuard, decide_eq_true_iff]
    rw [marker?_of_ofSyntax hUse, Marker.ofName?_eq_guard_iff]
  · intro a use hUse
    exact ⟨_, hUse⟩

/-- The text of the last guard of a kind is empty only if there is no such guard, or it has no
argument, or has the empty string. -/
theorem lastGuardText_ne_nil_iff
    (h : AnnotatedMethod.ofSyntax imports declaringClass m = .ok method)
    (hTokens : ∀ a e, m.lastGuard? kind = some a → a.body.value? = some e → e.HasTokens) :
    method.lastGuardText kind ≠ [] ↔
      ∃ a e, m.lastGuard? kind = some a ∧ a.body.value? = some e ∧
        ArgumentValue.ofExpression e ≠ .ok (.literal []) := by
  have hRel := rel_lastGuard? h kind
  rw [AnnotatedMethod.lastGuardText]
  -- Both sides look at the last guard only, so they agree once it is there or not on both.
  generalize m.lastGuard? kind = written at hRel hTokens
  generalize (List.filter _ _).getLast? = found at hRel
  cases hRel with
  | none => simp
  | @some a use hUse =>
      obtain ⟨owner, hUse⟩ := hUse
      rw [guardText_argument_ne_nil_iff hUse fun e => hTokens a e rfl]
      simp

/-- The last guard of a kind is one of the annotations and of this kind. -/
theorem mem_of_lastGuard? {a : AnnotationSyntax} (h : m.lastGuard? kind = some a) :
    a ∈ m.annotations ∧ a.isGuard kind = true :=
  List.mem_filter.1 (List.mem_of_getLast? h)

end Conversion

/-! ## Endpoints and their rows -/

theorem Guards.any_ofKinds (expression : GuardKind → Text) :
    (Guards.ofKinds expression).any = true ↔ ∃ kind, expression kind ≠ [] := by
  have hAny : (ofKinds expression).any =
      GuardKind.all.any fun kind => !(expression kind).isEmpty := rfl
  rw [hAny, List.any_eq_true]
  constructor
  · rintro ⟨kind, -, hSome⟩
    exact ⟨kind, by simpa using hSome⟩
  · rintro ⟨kind, hSome⟩
    refine ⟨kind, ?_, by simpa using hSome⟩
    cases kind <;> decide

theorem AnnotatedMethod.guards_of_mem_compose {m : AnnotatedMethod}
    {diagnostics : List Diagnostic} {e : Endpoint}
    (h : e ∈ (m.compose diagnostics).endpoints) : e.guards = m.lastGuards := by
  rw [compose_eq, endpoints_eq] at h
  obtain ⟨a, -, hEndpoint⟩ := List.mem_flatMap.1 h
  obtain ⟨_, _, _, -, -, -, -, -, hGuards⟩ := AnnotationUse.exists_of_mem_routeEndpoints hEndpoint
  exact hGuards

/-- The endpoints of a method are guarded exactly if it has an effective guard. -/
theorem isGuarded_iff_of_mem_compose {imports : ImportTable} {declaringClass : Text}
    {m : MethodSyntax} {method : AnnotatedMethod} {diagnostics : List Diagnostic} {e : Endpoint}
    (hMethod : AnnotatedMethod.ofSyntax imports declaringClass m = .ok method)
    (hTokens : ∀ kind a e, m.lastGuard? kind = some a → a.body.value? = some e → e.HasTokens)
    (hMem : e ∈ (method.compose diagnostics).endpoints) :
    e.isGuarded = true ↔ m.HasEffectiveGuard := by
  rw [Endpoint.isGuarded, AnnotatedMethod.guards_of_mem_compose hMem,
    AnnotatedMethod.lastGuards, Guards.any_ofKinds]
  exact exists_congr fun kind => lastGuardText_ne_nil_iff hMethod (hTokens kind)

/-- Whether a row has the red mark in place of the first guard.  A guard with the same text
does not have its style. -/
def IsMarkedUnguarded (row : List Cell) : Prop :=
  row[2]? = some (.ofText "UNGUARDED" "bold red")

theorem Endpoint.isMarkedUnguarded_row {e : Endpoint} :
    IsMarkedUnguarded e.row ↔ e.isGuarded = false := by
  by_cases hGuarded : e.isGuarded = true
  · rw [row, if_pos hGuarded, hGuarded]
    refine iff_of_false ?_ (by simp)
    intro hMarked
    obtain ⟨-, hStyle⟩ := Cell.plain.inj (Option.some.inj hMarked)
    exact absurd hStyle.symm (by decide)
  · rw [row, if_neg hGuarded]
    simpa [IsMarkedUnguarded] using hGuarded

/-- The report marks the rows of the endpoints that are left if the guarded ones are taken out,
and no others. -/
theorem forall₂_isMarkedUnguarded (endpoints : List Endpoint) :
    List.Forall₂ (fun e row => IsMarkedUnguarded row ↔ e ∈ unguardedEndpoints endpoints)
      endpoints (tableReport endpoints).rows := by
  rw [tableReport, List.forall₂_map_right_iff, List.forall₂_same]
  intro e hMem
  rw [Endpoint.isMarkedUnguarded_row, unguardedEndpoints, List.mem_filter]
  simp [hMem]

/-- An endpoint is guarded exactly if its method has an effective guard.

* A method is converted exactly if no literal in its annotations is undecodable.  Each endpoint
  that is composed for it, also below a prefix, is guarded exactly if the last annotation of
  some guard kind has an argument `value` that is not the empty string.
* For no other expression is the text of a guard empty, and those that are the empty string
  consist of string literals.
* Leaving out the guarded endpoints keeps the others as often as they occur and in their order,
  and these are the ones whose rows the report marks. -/
theorem isGuarded_iff_hasEffectiveGuard :
    (∀ imports declaringClass (m : MethodSyntax),
      (∀ a ∈ m.annotations, ∀ kind e, a.isGuard kind = true → a.body.value? = some e →
        e.HasTokens) →
      ((∃ method, AnnotatedMethod.ofSyntax imports declaringClass m = .ok method) ↔
        ¬ ∃ a ∈ m.annotations, a.Undecodable) ∧
      ∀ method, AnnotatedMethod.ofSyntax imports declaringClass m = .ok method →
        ∀ diagnostics, ∀ e ∈ (method.compose diagnostics).endpoints,
          (e.isGuarded = true ↔ m.HasEffectiveGuard) ∧
          ∀ before, (e.below before).isGuarded = true ↔ m.HasEffectiveGuard) ∧
    (∀ e value, e.HasTokens → ArgumentValue.ofExpression e = .ok value →
      (value.guardText = [] ↔ value = .literal []) ∧
      (value = .literal [] ↔ e.Denotes [] ∧ ¬ e.IsSignedLiteral)) ∧
    ∀ endpoints,
      (unguardedEndpoints endpoints).Sublist endpoints ∧
      (∀ e, (unguardedEndpoints endpoints).count e =
        if e.isGuarded then 0 else endpoints.count e) ∧
      List.Forall₂ (fun e row => IsMarkedUnguarded row ↔ e ∈ unguardedEndpoints endpoints)
        endpoints (tableReport endpoints).rows := by
  refine ⟨?_, ?_, ?_⟩
  · intro imports declaringClass m hTokens
    refine ⟨by rw [← not_isError_iff, isError_method], ?_⟩
    intro method hMethod diagnostics e hMem
    have hGuarded : e.isGuarded = true ↔ m.HasEffectiveGuard := by
      refine isGuarded_iff_of_mem_compose hMethod ?_ hMem
      intro kind a value hLast
      obtain ⟨hUse, hGuard⟩ := mem_of_lastGuard? hLast
      exact hTokens a hUse kind value hGuard
    exact ⟨hGuarded, fun _ => hGuarded⟩
  · intro e value hTokens hValue
    refine ⟨guardText_eq_nil_iff hValue hTokens, ?_⟩
    rw [← ofExpression_eq_literal_iff, hValue, Except.ok.injEq]
  · intro endpoints
    refine ⟨List.filter_sublist, fun e => ?_, forall₂_isMarkedUnguarded endpoints⟩
    by_cases hGuarded : e.isGuarded = true
    · rw [if_pos hGuarded, List.count_eq_zero]
      simp [unguardedEndpoints, hGuarded]
    · rw [if_neg hGuarded, unguardedEndpoints, List.count_filter]
      simpa using hGuarded

/-- A method of a shop with a guard that is overwritten by an empty one, and with filters. -/
def shopMethod (filters : List AnnotationSyntax) : MethodSyntax :=
  ⟨"list", [], [⟨"GetMapping", .single (.literal "\"/a\"" [] [])⟩,
    ⟨"PreAuthorize", .single (.literal "\"user\"" [] [])⟩,
    ⟨"PreAuthorize", .pairs [("value", .literal "\"\"" [] [])]⟩] ++ filters⟩

theorem shopMethod_hasTokens : ∀ a ∈ (shopMethod []).annotations, ∀ e,
    a.body.value? = some e → e.HasTokens := by
  intro a hUse e hValue
  simp only [shopMethod, List.append_nil, List.mem_cons, List.not_mem_nil, or_false] at hUse
  rcases hUse with rfl | rfl | rfl
  all_goals
    obtain rfl := Option.some.inj hValue
    simp [Expression.HasTokens, Text.ofString_eq_nil_iff]

/-- An array guards the endpoint, also an empty one; without it nothing does. -/
theorem shopMethod_isGuarded :
    (∃ method, AnnotatedMethod.ofSyntax .empty "Shop"
        (shopMethod [⟨"PostFilter", .single (.elements [])⟩]) = .ok method ∧
      ∃ e ∈ (method.compose []).endpoints, e.isGuarded = true) ∧
    ∃ method, AnnotatedMethod.ofSyntax .empty "Shop" (shopMethod []) = .ok method ∧
      ∃ e ∈ (method.compose []).endpoints, e.isGuarded = false := by
  obtain ⟨hMethods, -⟩ := isGuarded_iff_hasEffectiveGuard
  constructor
  · obtain ⟨-, hGuarded⟩ := hMethods .empty "Shop"
      (shopMethod [⟨"PostFilter", .single (.elements [])⟩]) (by
        intro a hUse kind e _ hValue
        rcases List.mem_append.1 hUse with hUse | hUse
        · exact shopMethod_hasTokens a hUse e hValue
        · obtain rfl := List.mem_singleton.1 hUse
          obtain rfl := Option.some.inj hValue
          trivial)
    refine ⟨_, rfl, ⟨"/a", "GET", ⟨[], [], [], "\x7b\x7d"⟩⟩, by decide, ?_⟩
    refine ((hGuarded _ rfl [] _ (by decide)).1).2 ⟨.postFilter, _, _, rfl, rfl, ?_⟩
    rintro ⟨⟩
  · obtain ⟨-, hGuarded⟩ := hMethods .empty "Shop" (shopMethod [])
      fun a hUse kind e _ => shopMethod_hasTokens a hUse e
    refine ⟨_, rfl, ⟨"/a", "GET", ⟨[], [], [], []⟩⟩, by decide, ?_⟩
    rw [← Bool.not_eq_true, (hGuarded _ rfl [] _ (by decide)).1]
    rintro ⟨kind, a, e, hLast, hValue, hNonEmpty⟩
    cases kind with
    | preAuthorize =>
        obtain rfl := Option.some.inj hLast
        obtain rfl := Option.some.inj hValue
        exact hNonEmpty rfl
    | postAuthorize => cases (show none = some a from hLast)
    | preFilter => cases (show none = some a from hLast)
    | postFilter => cases (show none = some a from hLast)

end SpringAudit

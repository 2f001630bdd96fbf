import SpringAudit.Endpoint.Mapping
import SpringAudit.Proofs.Source.Conversion

/-!
# Which expressions are constant strings

An expression has a literal as value if it is a string literal or joins such
expressions by `+`.  What stands around a literal counts less than it should: a
prefix operator is seen only if the literal stands alone, and a selector, such as a
call on the literal, is never seen (`ofExpression_account`).

A name without selectors is a constant, and prefix operators before it are not seen
either.  Any other expression that is no array is kept as text, and as a URL it is
reported.
-/

namespace SpringAudit

open Java

namespace Java.Expression

/-- The constant string that an expression stands for, prefix operators and selectors around
its literals left out. -/
inductive Denotes : Expression → Text → Prop where
  | literal {spelling text : Text} {prefixes : List Text} {selectors : List Expression}
      (hValue : stringValue? spelling = .ok (some text)) :
      Denotes (.literal spelling prefixes selectors) text
  | concatenation {left right : Expression} {first second : Text}
      (hLeft : Denotes left first) (hRight : Denotes right second) :
      Denotes (.binary "+" left right) (first ++ second)

/-- A chain of literals without prefix operators and selectors. -/
inductive Bare : Expression → Prop where
  | literal (spelling : Text) : Bare (.literal spelling [] [])
  | concatenation {left right : Expression} (hLeft : Bare left) (hRight : Bare right) :
      Bare (.binary "+" left right)

/-- A literal alone with prefix operators. -/
def IsSignedLiteral (e : Expression) : Prop :=
  ∃ spelling prefixes selectors, prefixes ≠ [] ∧ e = .literal spelling prefixes selectors

/-- An array of either kind. -/
def IsArray (e : Expression) : Prop :=
  ∃ items, e = .elements items ∨ e = .arrayInitializer items

/-- A name without selectors; there may be prefix operators before it. -/
def IsConstantName (e : Expression) : Prop :=
  ∃ qualifier member prefixes, e = .reference qualifier member prefixes []

variable {e left right : Expression} {text : Text}

theorem denotes_literal_iff {spelling : Text} {prefixes : List Text}
    {selectors : List Expression} :
    (Expression.literal spelling prefixes selectors).Denotes text ↔
      stringValue? spelling = .ok (some text) := by
  constructor
  · intro h
    cases h with
    | literal hValue => exact hValue
  · exact .literal

theorem denotes_binary_iff {operator : Text} :
    (Expression.binary operator left right).Denotes text ↔
      operator = "+" ∧ ∃ first second, left.Denotes first ∧ right.Denotes second ∧
        first ++ second = text := by
  constructor
  · intro h
    cases h with
    | concatenation hLeft hRight => exact ⟨rfl, _, _, hLeft, hRight, rfl⟩
  · rintro ⟨rfl, first, second, hLeft, hRight, rfl⟩
    exact .concatenation hLeft hRight

/-- The string is made of the values of the literals from left to right. -/
theorem Denotes.eq_flatten (h : e.Denotes text) :
    ∃ texts, List.Forall₂ (fun spelling t => stringValue? spelling = .ok (some t))
      (chainLiterals e) texts ∧ texts.flatten = text := by
  induction h with
  | @literal spelling text prefixes selectors hValue =>
      exact ⟨[text], .cons hValue .nil, List.flatten_singleton⟩
  | concatenation hLeft hRight ihLeft ihRight =>
      obtain ⟨texts, hTexts, rfl⟩ := ihLeft
      obtain ⟨texts', hTexts', rfl⟩ := ihRight
      refine ⟨texts ++ texts', ?_, List.flatten_append⟩
      rw [chainLiterals, if_pos rfl]
      exact List.rel_append hTexts hTexts'

/-- Operators and selectors that are put around an expression do not change what it stands
for. -/
theorem denotes_around_iff (prefixes : List Text) (selectors : List Expression) :
    (e.around prefixes selectors).Denotes text ↔ e.Denotes text := by
  cases e with
  | literal spelling prefixes' selectors' =>
      rw [Expression.around, denotes_literal_iff, denotes_literal_iff]
  | reference qualifier member prefixes' selectors' =>
      exact ⟨fun h => (nomatch h), fun h => (nomatch h)⟩
  | call qualifier member arguments prefixes' selectors' =>
      exact ⟨fun h => (nomatch h), fun h => (nomatch h)⟩
  | _ => rfl

theorem Bare.not_isSignedLiteral (h : e.Bare) : ¬ e.IsSignedLiteral := by
  rintro ⟨spelling, prefixes, selectors, hPrefixes, rfl⟩
  cases h
  exact hPrefixes rfl

end Java.Expression

/-! ## Values -/

/-- Folding a chain gives exactly the string that it stands for. -/
theorem foldConcatenation_eq_some_iff {e : Expression} {text : Text} :
    foldConcatenation e = .ok (some text) ↔ e.Denotes text := by
  induction e using foldConcatenation.induct generalizing text with
  | case1 spelling prefixes selectors =>
      rw [foldConcatenation, Expression.denotes_literal_iff]
  | case2 left right ihLeft ihRight =>
      rw [foldConcatenation, if_pos rfl, Expression.denotes_binary_iff, bind_eq_ok_iff]
      constructor
      · rintro ⟨first?, hLeft, hMore⟩
        obtain ⟨second?, hRight, hBoth⟩ := bind_eq_ok_iff.1 hMore
        obtain ⟨first, rfl, hRest⟩ := Option.bind_eq_some_iff.1 (Except.ok.inj hBoth)
        obtain ⟨second, rfl, hText⟩ := Option.map_eq_some_iff.1 hRest
        exact ⟨rfl, first, second, ihLeft.1 hLeft, ihRight.1 hRight, hText⟩
      · rintro ⟨-, first, second, hLeft, hRight, rfl⟩
        exact ⟨some first, ihLeft.2 hLeft,
          bind_eq_ok_iff.2 ⟨some second, ihRight.2 hRight, rfl⟩⟩
  | case3 operator left right hOther =>
      rw [foldConcatenation, if_neg hOther, Expression.denotes_binary_iff]
      simp [hOther]
  | case4 e hLiteral hBinary =>
      cases e with
      | literal spelling prefixes selectors => exact absurd rfl (hLiteral _ _ _)
      | binary operator left right => exact absurd rfl (hBinary _ _ _)
      | _ =>
          constructor
          · intro h
            cases h
          · intro h
            cases h

/-- What is no array and no plain name is a constant string, and then a literal, or it is kept as
text. -/
theorem ofExpression_eq_literal_or_expression {e : Expression} {value : ArgumentValue}
    (h : ArgumentValue.ofExpression e = .ok value) (hArray : ¬ e.IsArray)
    (hName : ¬ e.IsConstantName) :
    (∃ text, e.Denotes text ∧ ¬ e.IsSignedLiteral ∧ value = .literal text) ∨
      value = .expression (renderExpression e) := by
  cases e with
  | literal spelling prefixes selectors =>
      rw [ArgumentValue.ofExpression, bind_eq_ok_iff] at h
      obtain ⟨found, hFound, hValue⟩ := h
      cases found with
      | none => exact .inr (Except.ok.inj hValue).symm
      | some found =>
          dsimp only at hValue
          split at hValue
          · next hPrefixes =>
              refine .inl ⟨found, .literal hFound, ?_, (Except.ok.inj hValue).symm⟩
              simpa [Expression.IsSignedLiteral] using hPrefixes
          · exact .inr (Except.ok.inj hValue).symm
  | binary operator left right =>
      rw [ArgumentValue.ofExpression, bind_eq_ok_iff] at h
      obtain ⟨found, hFound, hValue⟩ := h
      cases found with
      | none => exact .inr (Except.ok.inj hValue).symm
      | some found =>
          refine .inl ⟨found, foldConcatenation_eq_some_iff.1 hFound, ?_,
            (Except.ok.inj hValue).symm⟩
          rintro ⟨spelling, prefixes, selectors, -, hLiteral⟩
          cases hLiteral
  | elements items => exact absurd ⟨items, .inl rfl⟩ hArray
  | arrayInitializer items => exact absurd ⟨items, .inr rfl⟩ hArray
  | reference qualifier member prefixes selectors =>
      cases selectors with
      | nil => exact absurd ⟨qualifier, member, prefixes, rfl⟩ hName
      | cons first rest => exact .inr (Except.ok.inj h).symm
  | _ => exact .inr (Except.ok.inj h).symm

/-- A constant string has a literal as value, unless it is a literal alone with prefix
operators. -/
theorem ofExpression_of_denotes {e : Expression} {text : Text} (h : e.Denotes text)
    (hNotSigned : ¬ e.IsSignedLiteral) : ArgumentValue.ofExpression e = .ok (.literal text) := by
  cases h with
  | @literal spelling text prefixes selectors hValue =>
      have hPrefixes : prefixes = [] := by
        by_contra hSome
        exact hNotSigned ⟨spelling, prefixes, selectors, hSome, rfl⟩
      rw [ArgumentValue.ofExpression, hValue, hPrefixes]
      rfl
  | concatenation hLeft hRight =>
      rw [ArgumentValue.ofExpression,
        foldConcatenation_eq_some_iff.2 (.concatenation hLeft hRight)]
      rfl

/-- The value of an array is a list. -/
theorem exists_list_of_isArray {e : Expression} {value : ArgumentValue}
    (h : ArgumentValue.ofExpression e = .ok value) (hArray : e.IsArray) :
    ∃ values, value = .list values := by
  obtain ⟨items, rfl | rfl⟩ := hArray
  · obtain ⟨values, -, hValue⟩ := bind_eq_ok_iff.1 h
    exact ⟨values, (Except.ok.inj hValue).symm⟩
  · obtain ⟨values, -, hValue⟩ := bind_eq_ok_iff.1 h
    exact ⟨values, (Except.ok.inj hValue).symm⟩

/-- The value is the list of an array, the constant of a name, the string that the expression
stands for, or the text of the expression. -/
theorem ofExpression_cases {e : Expression} {value : ArgumentValue}
    (h : ArgumentValue.ofExpression e = .ok value) :
    (e.IsArray ∧ ∃ values, value = .list values) ∨
      (∃ qualifier name prefixes, e = .reference qualifier name prefixes [] ∧
        value = .constant qualifier name) ∨
      (∃ text, e.Denotes text ∧ ¬ e.IsSignedLiteral ∧ value = .literal text) ∨
      value = .expression (renderExpression e) := by
  by_cases hArray : e.IsArray
  · exact .inl ⟨hArray, exists_list_of_isArray h hArray⟩
  by_cases hName : e.IsConstantName
  · obtain ⟨qualifier, name, prefixes, rfl⟩ := hName
    exact .inr (.inl ⟨qualifier, name, prefixes, rfl, (Except.ok.inj h).symm⟩)
  exact .inr (.inr (ofExpression_eq_literal_or_expression h hArray hName))

/-- The value is a literal exactly if the expression stands for a string and is no literal alone
with prefix operators. -/
theorem ofExpression_eq_literal_iff {e : Expression} {text : Text} :
    ArgumentValue.ofExpression e = .ok (.literal text) ↔
      e.Denotes text ∧ ¬ e.IsSignedLiteral := by
  constructor
  · intro h
    rcases ofExpression_cases h with
      ⟨-, values, hList⟩ | ⟨qualifier, name, prefixes, -, hConstant⟩ |
      ⟨text', hText, hNotSigned, hLiteral⟩ | hOther
    · cases hList
    · cases hConstant
    · obtain rfl := ArgumentValue.literal.inj hLiteral
      exact ⟨hText, hNotSigned⟩
    · cases hOther
  · rintro ⟨hText, hNotSigned⟩
    exact ofExpression_of_denotes hText hNotSigned

/-- The value is a constant exactly if the expression is a name without selectors. -/
theorem ofExpression_eq_constant_iff {e : Expression} {qualifier name : Text} :
    ArgumentValue.ofExpression e = .ok (.constant qualifier name) ↔
      ∃ prefixes, e = .reference qualifier name prefixes [] := by
  constructor
  · intro h
    rcases ofExpression_cases h with
      ⟨-, values, hList⟩ | ⟨qualifier', name', prefixes, hName, hConstant⟩ |
      ⟨text, -, -, hLiteral⟩ | hOther
    · cases hList
    · obtain ⟨rfl, rfl⟩ := ArgumentValue.constant.inj hConstant
      exact ⟨prefixes, hName⟩
    · cases hLiteral
    · cases hOther
  · rintro ⟨prefixes, rfl⟩
    rfl

/-- A URL that is kept as text is reported. -/
theorem AnnotationUse.urls_of_expression {a : AnnotationUse} {text : Text}
    (h : a.urlArgument = .expression text) :
    a.urls = .error (.invalidUrl (.expression text)) := by
  rw [urls, h]
  rfl

/-- The values of expressions, and which of them are constant strings.

* There is no value exactly if a literal that must be decoded cannot be decoded.
* The value is a literal exactly if the expression is made of string literals by `+` alone,
  whatever prefix operators and selectors its literals have, and is no literal alone with
  prefix operators.  The text joins the values of the literals from left to right.
* Prefix operators and selectors around an expression do not change what it stands for.
* The value is a constant exactly if the expression is a name without selectors, whatever prefix
  operators it has.
* Any other expression, unless it is an array, is kept as text, and a mapping with it as URL is
  reported. -/
theorem ofExpression_account (e : Expression) :
    ((∃ value, ArgumentValue.ofExpression e = .ok value) ↔
      ∀ spelling ∈ decodedLiterals e, ¬ UndecodableLiteral spelling) ∧
    (∀ text, ArgumentValue.ofExpression e = .ok (.literal text) ↔
      e.Denotes text ∧ ¬ e.IsSignedLiteral) ∧
    (∀ text, e.Bare →
      (ArgumentValue.ofExpression e = .ok (.literal text) ↔ e.Denotes text)) ∧
    (∀ text, e.Denotes text →
      (∃ texts, List.Forall₂ (fun spelling t => stringValue? spelling = .ok (some t))
        (chainLiterals e) texts ∧ texts.flatten = text) ∧
      ∀ prefixes selectors, (e.around prefixes selectors).Denotes text) ∧
    (∀ qualifier name, ArgumentValue.ofExpression e = .ok (.constant qualifier name) ↔
      ∃ prefixes, e = .reference qualifier name prefixes []) ∧
    ∀ value, ArgumentValue.ofExpression e = .ok value → ¬ e.IsArray → ¬ e.IsConstantName →
      (∀ text, e.Denotes text → e.IsSignedLiteral) →
        value = .expression (renderExpression e) ∧
        ∀ a : AnnotationUse, a.urlArgument = value →
          a.urls = .error (.invalidUrl value) ∧
            ((ResolutionError.invalidUrl value).diagnostic a).kind = .invalidArgument := by
  refine ⟨?_, fun text => ofExpression_eq_literal_iff, ?_, ?_,
    fun qualifier name => ofExpression_eq_constant_iff, ?_⟩
  · rw [← not_isError_iff, isError_ofExpression]
    simp only [not_exists, not_and]
  · intro text hBare
    rw [ofExpression_eq_literal_iff, and_iff_left hBare.not_isSignedLiteral]
  · intro text hText
    exact ⟨hText.eq_flatten, fun prefixes selectors =>
      (Expression.denotes_around_iff prefixes selectors).2 hText⟩
  · intro value hValue hArray hName hNoString
    rcases ofExpression_eq_literal_or_expression hValue hArray hName with
      ⟨text, hText, hNotSigned, -⟩ | rfl
    · exact absurd (hNoString text hText) hNotSigned
    · exact ⟨rfl, fun a hUrl => ⟨AnnotationUse.urls_of_expression hUrl, rfl⟩⟩

/-- A literal with a name behind it: `"/a" + SUFFIX`. -/
def unknownSuffix : Expression :=
  .binary "+" (.literal "\"/a\"" [] []) (.reference [] "SUFFIX" [] [])

/-- A chain that ends in a name has a value, and this is its source form. -/
theorem unknownSuffix_kept_as_text :
    ∃ value, ArgumentValue.ofExpression unknownSuffix = .ok value ∧
      value = .expression "\"/a\" + SUFFIX" := by
  have hArray : ¬ unknownSuffix.IsArray := by
    rintro ⟨items, h | h⟩
    · cases h
    · cases h
  have hName : ¬ unknownSuffix.IsConstantName := by
    rintro ⟨qualifier, member, prefixes, h⟩
    cases h
  have hNoString (text : Text) (h : unknownSuffix.Denotes text) :
      unknownSuffix.IsSignedLiteral := by
    obtain ⟨-, first, second, -, hSecond, -⟩ := Expression.denotes_binary_iff.1 h
    cases hSecond
  obtain ⟨-, -, -, -, -, hOther⟩ := ofExpression_account unknownSuffix
  exact ⟨_, rfl, (hOther _ rfl hArray hName hNoString).1⟩

/-- A call on a string literal: `"/a".concat("/b")`. -/
def callOnLiteral : Expression :=
  .literal "\"/a\"" [] [.call [] "concat" [.literal "\"/b\"" [] []] [] []]

/-- A chain with a prefix operator: `-"/a" + "/b"`. -/
def signInChain : Expression :=
  .binary "+" (.literal "\"/a\"" ["-"] []) (.literal "\"/b\"" [] [])

/-- A literal is also the value of expressions that are no constant strings. -/
theorem ofExpression_literal_not_bare :
    (ArgumentValue.ofExpression callOnLiteral = .ok (.literal "/a") ∧ ¬ callOnLiteral.Bare) ∧
    (ArgumentValue.ofExpression signInChain = .ok (.literal "/a/b") ∧ ¬ signInChain.Bare) := by
  refine ⟨⟨rfl, ?_⟩, ⟨rfl, ?_⟩⟩
  · intro h
    cases h
  · intro h
    cases h with
    | concatenation hLeft hRight => cases hLeft

end SpringAudit

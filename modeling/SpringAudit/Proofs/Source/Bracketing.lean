import SpringAudit.Proofs.Source.Constant

/-!
# How a concatenation is bracketed

A tree of binary operations is read from left to right as operands with operators between
them.  Whether it is a constant string, and which one, shows in this reading alone
(`denotes_iff`), and so does the source form of the tree (`renderExpression_eq_append`).
The brackets of a chain of `+` therefore do not count, neither for the string that it folds to
nor for its value as annotation argument (`foldConcatenation_ignores_brackets`).

A literal that cannot be decoded makes folding fail.  In a chain of `+` it does so wherever it
stands; below another operator it is not looked at.
-/

namespace SpringAudit

open Java

namespace Java.Expression

/-! ## Trees from left to right -/

/-- An expression that is no binary operation. -/
def IsLeaf (e : Expression) : Prop :=
  ∀ operator left right, e ≠ .binary operator left right

/-- The operands of a tree of binary operations, from left to right; a leaf is its own only
operand. -/
def operands : Expression → List Expression
  | .binary _ left right => left.operands ++ right.operands
  | e => [e]

/-- The operators of a tree of binary operations, from left to right. -/
def operators : Expression → List Text
  | .binary operator left right => left.operators ++ operator :: right.operators
  | _ => []

/-- Whether all operators of a tree are `+`. -/
def OnlyJoins (e : Expression) : Prop :=
  ∀ operator ∈ e.operators, operator = "+"

instance (e : Expression) : Decidable e.OnlyJoins :=
  inferInstanceAs (Decidable (∀ operator ∈ e.operators, operator = "+"))

/-- A string literal or text block, whatever stands around it. -/
def IsStringLiteral (e : Expression) : Prop :=
  ∃ spelling prefixes selectors body,
    e = .literal spelling prefixes selectors ∧ literalBody? spelling = some body

/-- A string literal with its decoded text. -/
def Spells (e : Expression) (text : Text) : Prop :=
  ∃ spelling prefixes selectors,
    e = .literal spelling prefixes selectors ∧ stringValue? spelling = .ok (some text)

/-- Whether the string literals among the operands of a tree can all be decoded. -/
def HasDecodableOperands (e : Expression) : Prop :=
  ∀ spelling prefixes selectors, .literal spelling prefixes selectors ∈ e.operands →
    ¬ UndecodableLiteral spelling

variable {e f left right : Expression} {operator text : Text}

theorem onlyJoins_binary_iff :
    (Expression.binary operator left right).OnlyJoins ↔
      operator = "+" ∧ left.OnlyJoins ∧ right.OnlyJoins := by
  simp only [OnlyJoins, operators, List.forall_mem_append, List.forall_mem_cons]
  exact and_left_comm

theorem IsLeaf.operands_eq (h : e.IsLeaf) : e.operands = [e] := by
  cases e with
  | binary operator left right => exact absurd rfl (h operator left right)
  | _ => rfl

theorem operators_eq_nil_iff : e.operators = [] ↔ e.IsLeaf := by
  cases e with
  | binary operator left right => simp [operators, IsLeaf]
  | _ => simp [operators, IsLeaf]

theorem isLeaf_of_mem_operands {operand : Expression} (h : operand ∈ e.operands) :
    operand.IsLeaf := by
  induction e using operands.induct with
  | case1 operator left right ihLeft ihRight =>
      rw [operands, List.mem_append] at h
      exact h.elim ihLeft ihRight
  | case2 e hLeaf =>
      rw [IsLeaf.operands_eq hLeaf, List.mem_singleton] at h
      rwa [h]

/-- The operands are one more than the operators. -/
theorem length_operands (e : Expression) : e.operands.length = e.operators.length + 1 := by
  induction e using operands.induct with
  | case1 operator left right ihLeft ihRight =>
      rw [operands, operators, List.length_append, List.length_append, List.length_cons, ihLeft,
        ihRight]
      omega
  | case2 e hLeaf =>
      rw [IsLeaf.operands_eq hLeaf, operators_eq_nil_iff.2 hLeaf]
      rfl

/-- Chains of `+` with the same operands have the same operators. -/
theorem OnlyJoins.operators_eq (hJoins : e.OnlyJoins) (hJoins' : f.OnlyJoins)
    (hOperands : e.operands = f.operands) : e.operators = f.operators := by
  have hLength : e.operators.length = f.operators.length := by
    have h := congrArg List.length hOperands
    rw [length_operands, length_operands] at h
    omega
  rw [List.eq_replicate_of_mem hJoins, List.eq_replicate_of_mem hJoins', hLength]

/-! ## Operands that are strings -/

theorem IsLeaf.denotes_iff (h : e.IsLeaf) : e.Denotes text ↔ e.Spells text := by
  constructor
  · intro hText
    cases hText with
    | literal hValue => exact ⟨_, _, _, rfl, hValue⟩
    | concatenation hLeft hRight => exact absurd rfl (h _ _ _)
  · rintro ⟨spelling, prefixes, selectors, rfl, hValue⟩
    exact .literal hValue

theorem Spells.isStringLiteral (h : e.Spells text) : e.IsStringLiteral := by
  obtain ⟨spelling, prefixes, selectors, rfl, hValue⟩ := h
  cases hBody : literalBody? spelling with
  | none =>
      rw [stringValue?_eq, hBody] at hValue
      cases hValue
  | some body => exact ⟨spelling, prefixes, selectors, body, rfl, hBody⟩

/-- A string literal that can be decoded has a text. -/
theorem IsStringLiteral.exists_spells (h : e.IsStringLiteral)
    (hDecodable : ∀ spelling prefixes selectors, e = .literal spelling prefixes selectors →
      ¬ UndecodableLiteral spelling) : ∃ text, e.Spells text := by
  obtain ⟨spelling, prefixes, selectors, body, rfl, hBody⟩ := h
  have hGood := hDecodable spelling prefixes selectors rfl
  rw [← isError_stringValue?, not_isError_iff] at hGood
  obtain ⟨value, hValue⟩ := hGood
  have hSome := hValue
  rw [stringValue?_eq, hBody] at hSome
  obtain ⟨text, -, rfl⟩ := map_eq_ok_iff.1 hSome
  exact ⟨text, spelling, prefixes, selectors, rfl, hValue⟩

/-- A tree is a constant string exactly if all operators are `+` and all operands are string
literals; the texts of these are joined in order. -/
theorem denotes_iff :
    e.Denotes text ↔
      e.OnlyJoins ∧ ∃ texts, List.Forall₂ Spells e.operands texts ∧ texts.flatten = text := by
  induction e using operands.induct generalizing text with
  | case1 operator left right ihLeft ihRight =>
      simp only [denotes_binary_iff, onlyJoins_binary_iff, operands, ihLeft, ihRight]
      constructor
      · rintro ⟨hPlus, _, _, ⟨hLeft, texts, hTexts, rfl⟩, ⟨hRight, texts', hTexts', rfl⟩, rfl⟩
        exact ⟨⟨hPlus, hLeft, hRight⟩, texts ++ texts', List.rel_append hTexts hTexts',
          List.flatten_append⟩
      · rintro ⟨⟨hPlus, hLeft, hRight⟩, texts, hTexts, rfl⟩
        -- The texts are split where the operands of the right side begin.
        obtain ⟨first, second, hFirst, hSecond, rfl⟩ := exists_append_of_forall₂ hTexts
        exact ⟨hPlus, first.flatten, second.flatten, ⟨hLeft, first, hFirst, rfl⟩,
          ⟨hRight, second, hSecond, rfl⟩, List.flatten_append.symm⟩
  | case2 e hLeaf =>
      rw [IsLeaf.denotes_iff hLeaf, OnlyJoins, IsLeaf.operands_eq hLeaf,
        operators_eq_nil_iff.2 hLeaf]
      simp [List.forall₂_cons_left_iff]

/-! ## Literals that are decoded -/

/-- The literals that folding decodes are among the operands. -/
theorem exists_mem_operands {spelling : Text} (h : spelling ∈ chainLiterals e) :
    ∃ prefixes selectors, .literal spelling prefixes selectors ∈ e.operands := by
  induction e using chainLiterals.induct with
  | case1 spelling' prefixes selectors =>
      obtain rfl : spelling = spelling' := by simpa [chainLiterals] using h
      exact ⟨prefixes, selectors, List.mem_singleton_self _⟩
  | case2 left right ihLeft ihRight =>
      simp only [chainLiterals, if_true, operands, List.mem_append] at h ⊢
      rcases h with hLeft | hRight
      · obtain ⟨prefixes, selectors, hMem⟩ := ihLeft hLeft
        exact ⟨prefixes, selectors, .inl hMem⟩
      · obtain ⟨prefixes, selectors, hMem⟩ := ihRight hRight
        exact ⟨prefixes, selectors, .inr hMem⟩
  | case3 operator left right hOther => simp [chainLiterals, hOther] at h
  | case4 e hLiteral hBinary => simp [chainLiterals] at h

theorem OnlyJoins.mem_chainLiterals {spelling : Text} {prefixes : List Text}
    {selectors : List Expression} (hJoins : e.OnlyJoins)
    (h : .literal spelling prefixes selectors ∈ e.operands) : spelling ∈ chainLiterals e := by
  induction e using operands.induct with
  | case1 operator left right ihLeft ihRight =>
      obtain ⟨hPlus, hLeft, hRight⟩ := onlyJoins_binary_iff.1 hJoins
      rw [operands, List.mem_append] at h
      rw [chainLiterals, if_pos hPlus, List.mem_append]
      exact h.imp (ihLeft hLeft) (ihRight hRight)
  | case2 e hLeaf =>
      rw [IsLeaf.operands_eq hLeaf, List.mem_singleton] at h
      rw [← h]
      exact List.mem_singleton_self spelling

/-- In a chain of `+` all literals among the operands are decoded, and no others. -/
theorem OnlyJoins.mem_chainLiterals_iff {spelling : Text} (hJoins : e.OnlyJoins) :
    spelling ∈ chainLiterals e ↔
      ∃ prefixes selectors, .literal spelling prefixes selectors ∈ e.operands := by
  constructor
  · exact exists_mem_operands
  · rintro ⟨prefixes, selectors, hOperand⟩
    exact hJoins.mem_chainLiterals hOperand

end Java.Expression

/-! ## Folding -/

section Folding

variable {e f : Expression}

theorem isOk_foldConcatenation (h : e.HasDecodableOperands) :
    ∃ result, foldConcatenation e = .ok result := by
  rw [← not_isError_iff, isError_foldConcatenation]
  rintro ⟨spelling, hMem, hUndecodable⟩
  obtain ⟨prefixes, selectors, hOperand⟩ := Expression.exists_mem_operands hMem
  exact h spelling prefixes selectors hOperand hUndecodable

theorem foldConcatenation_eq_none (h : e.HasDecodableOperands) (hNone : ∀ text, ¬ e.Denotes text) :
    foldConcatenation e = .ok none := by
  obtain ⟨result, hResult⟩ := isOk_foldConcatenation h
  cases result with
  | none => exact hResult
  | some text => exact absurd (foldConcatenation_eq_some_iff.1 hResult) (hNone text)

/-- There is one way only to fail, so results are the same if they fail alike and are the same
strings. -/
theorem foldConcatenation_congr
    (hError : IsError (foldConcatenation e) ↔ IsError (foldConcatenation f))
    (hText : ∀ text, e.Denotes text ↔ f.Denotes text) :
    foldConcatenation e = foldConcatenation f := by
  by_cases hFails : IsError (foldConcatenation e)
  · obtain ⟨reason', hSecond⟩ := hError.1 hFails
    obtain ⟨reason, hFirst⟩ := hFails
    rw [hFirst, hSecond]
  · obtain ⟨result', hSecond⟩ := not_isError_iff.1 (mt hError.2 hFails)
    obtain ⟨result, hFirst⟩ := not_isError_iff.1 hFails
    have hSame : result = result' := by
      apply Option.ext
      intro text
      simpa [← foldConcatenation_eq_some_iff, hFirst, hSecond] using hText text
    rw [hFirst, hSecond, hSame]

/-- Chains of `+` with the same operands fold to the same string, or fail both. -/
theorem foldConcatenation_eq_of_operands_eq (hOperands : e.operands = f.operands)
    (hJoins : e.OnlyJoins) (hJoins' : f.OnlyJoins) :
    foldConcatenation e = foldConcatenation f := by
  apply foldConcatenation_congr
  · simp only [isError_foldConcatenation, hJoins.mem_chainLiterals_iff,
      hJoins'.mem_chainLiterals_iff, hOperands]
  · intro text
    rw [Expression.denotes_iff, Expression.denotes_iff, hOperands]
    exact and_congr_left' (iff_of_true hJoins hJoins')

end Folding

/-! ## Source forms -/

/-- The source form of operands with an operator in front of each. -/
def renderFurther (operators : List Text) (operands : List Expression) : Text :=
  (operators.zip operands).flatMap fun (operator, operand) =>
    " " ++ operator ++ " " ++ renderExpression operand

/-- The source form of a tree has the operands and operators in order and nothing else. -/
theorem renderExpression_eq_append (e : Expression) :
    ∃ first further, e.operands = first :: further ∧
      renderExpression e = renderExpression first ++ renderFurther e.operators further := by
  induction e using Expression.operands.induct with
  | case1 operator left right ihLeft ihRight =>
      obtain ⟨first, further, hLeft, hFirst⟩ := ihLeft
      obtain ⟨first', further', hRight, hSecond⟩ := ihRight
      have hLength : left.operators.length = further.length := by
        have h := left.length_operands
        rw [hLeft, List.length_cons] at h
        omega
      refine ⟨first, further ++ first' :: further', ?_, ?_⟩
      · rw [Expression.operands, hLeft, hRight, List.cons_append]
      · simp only [renderExpression, hFirst, hSecond, renderFurther, Expression.operators,
          List.zip_append hLength, List.zip_cons_cons, List.flatMap_append, List.flatMap_cons,
          List.append_assoc]
  | case2 e hLeaf =>
      have hNone : e.operators = [] := Expression.operators_eq_nil_iff.2 hLeaf
      exact ⟨e, [], Expression.IsLeaf.operands_eq hLeaf, by simp [hNone, renderFurther]⟩

theorem renderExpression_eq_of_operands_eq {e f : Expression} (hOperands : e.operands = f.operands)
    (hOperators : e.operators = f.operators) : renderExpression e = renderExpression f := by
  obtain ⟨first, further, hFirst, hRender⟩ := renderExpression_eq_append e
  obtain ⟨first', further', hFirst', hRender'⟩ := renderExpression_eq_append f
  obtain ⟨rfl, rfl⟩ := List.cons_eq_cons.1 (hFirst.symm.trans (hOperands.trans hFirst'))
  rw [hRender, hRender', hOperators]

/-! ## Brackets -/

section Brackets

variable {e f : Expression}

/-- The value of a binary operation is its string, or its source form if it has none. -/
theorem ofExpression_of_not_isLeaf (h : ¬ e.IsLeaf) :
    ArgumentValue.ofExpression e = (foldConcatenation e).map fun
      | some text => .literal text
      | none => .expression (renderExpression e) := by
  simp only [Expression.IsLeaf, ne_eq, not_forall, not_not] at h
  obtain ⟨operator, left, right, rfl⟩ := h
  rw [ArgumentValue.ofExpression]
  cases foldConcatenation (.binary operator left right) with
  | error reason => rfl
  | ok result =>
      cases result with
      | none => rfl
      | some text => rfl

/-- Chains of `+` with the same operands have the same value. -/
theorem ofExpression_eq_of_operands_eq (hOperands : e.operands = f.operands)
    (hJoins : e.OnlyJoins) (hJoins' : f.OnlyJoins) :
    ArgumentValue.ofExpression e = ArgumentValue.ofExpression f := by
  have hOperators := hJoins.operators_eq hJoins' hOperands
  have hLeaves : e.IsLeaf ↔ f.IsLeaf := by
    rw [← Expression.operators_eq_nil_iff, ← Expression.operators_eq_nil_iff, hOperators]
  by_cases hLeaf : e.IsLeaf
  · have hSame : [e] = [f] := by
      rw [← hLeaf.operands_eq, ← (hLeaves.1 hLeaf).operands_eq, hOperands]
    rw [List.singleton_inj.1 hSame]
  · rw [ofExpression_of_not_isLeaf hLeaf, ofExpression_of_not_isLeaf (mt hLeaves.2 hLeaf),
      foldConcatenation_eq_of_operands_eq hOperands hJoins hJoins',
      renderExpression_eq_of_operands_eq hOperands hOperators]

end Brackets

/-- Folding and brackets.

* The operands of a tree are themselves no binary operations.
* Chains of `+` with the same operands from left to right fold to the same result, and have the
  same value as annotation argument, however they are bracketed.
* If the literals in such a chain can be decoded, it is no constant string if some operand is no
  string literal, and else it is the texts of the operands one after another.
* A tree with another operator, wherever it stands, is no constant string. -/
theorem foldConcatenation_ignores_brackets :
    (∀ e : Expression, ∀ operand ∈ e.operands, operand.IsLeaf) ∧
    (∀ e f : Expression, e.operands = f.operands → e.OnlyJoins → f.OnlyJoins →
      foldConcatenation e = foldConcatenation f ∧
        ArgumentValue.ofExpression e = ArgumentValue.ofExpression f) ∧
    (∀ e : Expression, e.HasDecodableOperands → e.OnlyJoins →
      ((∃ operand ∈ e.operands, ¬ operand.IsStringLiteral) → foldConcatenation e = .ok none) ∧
      ((∀ operand ∈ e.operands, operand.IsStringLiteral) →
        ∃ texts, List.Forall₂ Expression.Spells e.operands texts ∧
          foldConcatenation e = .ok (some texts.flatten))) ∧
    ∀ e : Expression, e.HasDecodableOperands → ¬ e.OnlyJoins →
      foldConcatenation e = .ok none := by
  refine ⟨fun e operand => Expression.isLeaf_of_mem_operands,
    fun e f hOperands hJoins hJoins' => ⟨?_, ?_⟩, fun e hDecodable hJoins => ⟨?_, ?_⟩,
    fun e hDecodable hOther => ?_⟩
  · exact foldConcatenation_eq_of_operands_eq hOperands hJoins hJoins'
  · exact ofExpression_eq_of_operands_eq hOperands hJoins hJoins'
  · rintro ⟨operand, hOperand, hNoLiteral⟩
    apply foldConcatenation_eq_none hDecodable
    intro text hText
    obtain ⟨-, texts, hTexts, -⟩ := Expression.denotes_iff.1 hText
    obtain ⟨operandText, hSpells⟩ := exists_forall₂_iff.1 ⟨texts, hTexts⟩ operand hOperand
    exact hNoLiteral hSpells.isStringLiteral
  · intro hLiterals
    have hSpelled : ∀ operand ∈ e.operands, ∃ text, operand.Spells text := by
      intro operand hOperand
      apply (hLiterals operand hOperand).exists_spells
      rintro spelling prefixes selectors rfl
      exact hDecodable spelling prefixes selectors hOperand
    obtain ⟨texts, hTexts⟩ := exists_forall₂_iff.2 hSpelled
    exact ⟨texts, hTexts, foldConcatenation_eq_some_iff.2
      (Expression.denotes_iff.2 ⟨hJoins, texts, hTexts, rfl⟩)⟩
  · apply foldConcatenation_eq_none hDecodable
    intro text hText
    exact hOther (Expression.denotes_iff.1 hText).1

/-- A chain whose first two operands stand in brackets, the second with an octal escape:
`("/a" + "\57b") + "/c"`. -/
def leftGrouped : Expression :=
  .binary "+" (.binary "+" (.literal "\"/a\"" [] []) (.literal "\"\\57b\"" [] []))
    (.literal "\"/c\"" [] [])

/-- The same operands with the brackets around the last two: `"/a" + ("\57b" + "/c")`. -/
def rightGrouped : Expression :=
  .binary "+" (.literal "\"/a\"" [] [])
    (.binary "+" (.literal "\"\\57b\"" [] []) (.literal "\"/c\"" [] []))

/-- The same operands with another operator inside the brackets: `"/a" + ("\57b" - "/c")`. -/
def otherGrouped : Expression :=
  .binary "+" (.literal "\"/a\"" [] [])
    (.binary "-" (.literal "\"\\57b\"" [] []) (.literal "\"/c\"" [] []))

/-- The brackets of a chain do not matter, and another operator does. -/
theorem rightGrouped_folds :
    (leftGrouped.operands = rightGrouped.operands ∧ leftGrouped.OnlyJoins ∧
      rightGrouped.OnlyJoins ∧ rightGrouped.HasDecodableOperands ∧
      (foldConcatenation leftGrouped = foldConcatenation rightGrouped ∧
        ArgumentValue.ofExpression leftGrouped = ArgumentValue.ofExpression rightGrouped) ∧
      ∃ texts, List.Forall₂ Expression.Spells rightGrouped.operands texts ∧
        texts.flatten = "/a/b/c" ∧
        foldConcatenation rightGrouped = .ok (some texts.flatten)) ∧
    (otherGrouped.HasDecodableOperands ∧ ¬ otherGrouped.OnlyJoins ∧
      foldConcatenation otherGrouped = .ok none) := by
  obtain ⟨-, hBrackets, hJoined, hOther⟩ := foldConcatenation_ignores_brackets
  have hDecodable : rightGrouped.HasDecodableOperands := by
    intro spelling prefixes selectors hMem
    rw [← isError_stringValue?, not_isError_iff]
    simp only [rightGrouped, Expression.operands, List.cons_append, List.nil_append,
      List.mem_cons, Expression.literal.injEq, List.not_mem_nil, or_false] at hMem
    obtain ⟨rfl, -⟩ | ⟨rfl, -⟩ | ⟨rfl, -⟩ := hMem
    · exact ⟨some "/a", rfl⟩
    · exact ⟨some "/b", rfl⟩
    · exact ⟨some "/c", rfl⟩
  have hLiterals : ∀ operand ∈ rightGrouped.operands, operand.IsStringLiteral := by
    intro operand hMem
    simp only [rightGrouped, Expression.operands, List.cons_append, List.nil_append,
      List.mem_cons, List.not_mem_nil, or_false] at hMem
    obtain rfl | rfl | rfl := hMem
    · exact ⟨_, _, _, _, rfl, rfl⟩
    · exact ⟨_, _, _, _, rfl, rfl⟩
    · exact ⟨_, _, _, _, rfl, rfl⟩
  -- The operands of the third tree are those of the second one.
  refine ⟨⟨rfl, by decide, by decide, hDecodable, hBrackets _ _ rfl (by decide) (by decide), ?_⟩,
    hDecodable, by decide, hOther _ hDecodable (by decide)⟩
  obtain ⟨texts, hTexts, hFold⟩ := (hJoined _ hDecodable (by decide)).2 hLiterals
  exact ⟨texts, hTexts, Option.some.inj (Except.ok.inj (hFold.symm.trans rfl)), hFold⟩

end SpringAudit

import SpringAudit.Java.Parser.Type
import SpringAudit.Proofs.Java.Parser.Progress

/-!
# Types take tokens

Type arguments nest, and each level of them is bounded by the number of tokens
that are left at it (`takes_referenceTypeUpTo`).
-/

namespace SpringAudit.Java.Parser

variable {n : Nat} {r : Parser TypeRef}

@[grind ←] theorem takes_typeArgument (h : Takes n r) : Takes n (typeArgument r) := by
  have hWithin := h.pred
  unfold typeArgument
  refine Takes.branchSkip ?_ (Takes.branchSkip ?_ ?_)
  · grind
  · grind
  · grind

@[grind ←] theorem takes_typeArgumentList (h : Takes (n - 1) r) : Takes n (typeArgumentList r) :=
  (takes_skip n _ _).bind fun _ => by grind

@[grind ←] theorem takes_namePiece (h : Takes (n - 1) r) : Takes n (namePiece r) := by
  have hArguments : Takes (n - 1) (typeArgumentList r) := takes_typeArgumentList h.pred
  exact (takes_identifier n).bind fun name => by grind

/-- The depth is bounded by the tokens at the place where the type begins. -/
theorem takes_referenceTypeUpTo {depth : Nat} (hDepth : n ≤ depth) :
    Takes n (referenceTypeUpTo depth) := by
  induction depth generalizing n with
  | zero =>
      intro bound here furthest hShort
      omega
  | succ depth ih =>
      have hWithin : Takes (n - 1) (referenceTypeUpTo depth) := ih (Nat.sub_le_of_le_add hDepth)
      exact (takes_namePiece hWithin).bind fun name => by grind

@[grind ←] theorem takes_referenceType (n : Nat) : Takes n referenceType :=
  Reads.readBound fun _ _ _ hBound => takes_referenceTypeUpTo hBound

@[grind ←] theorem takes_basicType (n : Nat) : Takes n basicType :=
  (takes_take n _).bind fun _ => fits_pure _ _

@[grind ←] theorem takes_type (n : Nat) : Takes n type := by
  unfold type
  refine (fits_next? n _).bindTakes fun isBasic => ?_
  refine (fits_next? n _).bindTakes fun isName => ?_
  grind

@[grind ←] theorem takes_listedType (n : Nat) : Takes n listedType := by
  unfold listedType
  refine Takes.branchSkip ?_ ?_
  · grind
  · grind

@[grind ←] theorem takes_typeList (n : Nat) : Takes n typeList := by
  unfold typeList
  grind

@[grind ←] theorem takes_plainTypeArguments (n : Nat) : Takes n plainTypeArguments := by
  unfold plainTypeArguments
  grind

@[grind ←] theorem takes_plainTypeArgumentsOrDiamond (n : Nat) :
    Takes n plainTypeArgumentsOrDiamond := by
  unfold plainTypeArgumentsOrDiamond
  refine Takes.branchSkip ?_ ?_
  · grind
  · grind

@[grind ←] theorem takes_createdName (n : Nat) : Takes n createdName := by
  have hArguments : Takes n (typeArgumentList referenceType) :=
    takes_typeArgumentList (takes_referenceType _)
  unfold createdName
  grind

@[grind ←] theorem takes_typeParameter (n : Nat) : Takes n typeParameter := by
  unfold typeParameter
  grind

@[grind ←] theorem takes_typeParameters (n : Nat) : Takes n typeParameters := by
  unfold typeParameters
  grind

end SpringAudit.Java.Parser

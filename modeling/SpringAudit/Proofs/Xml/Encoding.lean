import SpringAudit.Xml.Element

/-!
# Documents in an unknown encoding

Reading a document fails in two ways: what it holds is malformed, or it is in an encoding that
is not known.  The second happens exactly if the document declares a name of an encoding that
has no meaning (`Element.ofOctets_eq_unknownEncoding_iff`), whatever follows the declaration.
Such a name is none of the usual ones, and no code page has it
(`NamedEncoding.ofOtherName_eq_unknown_iff`).
-/

namespace SpringAudit.Xml

/-- A name that is not one of the usual ones is unknown exactly if no page has it, those
included that documents cannot be in. -/
theorem NamedEncoding.ofOtherName_eq_unknown_iff {name : Text} :
    ofOtherName name = .unknown ↔
      NamedPage.all.any (NamedPage.isNamed (NamedPage.plainForm name)) = false ∧
        NamedPage.foreignNames.isNamed (NamedPage.plainForm name) = false := by
  -- Only the function is unfolded, since its value at a name would be compared by evaluation.
  -- The tables become variables for the same reason.
  conv =>
    lhs
    lhs
    fun
    delta ofOtherName
  dsimp only
  generalize NamedPage.plainForm name = form
  generalize NamedPage.foreignNames = foreign
  generalize NamedPage.all = pages
  cases hFound : pages.find? (NamedPage.isNamed form) with
  | some known =>
      have hKnown : pages.any (NamedPage.isNamed form) = true :=
        List.any_eq_true.2 ⟨known, List.mem_of_find?_eq_some hFound, List.find?_some hFound⟩
      simp [hKnown]
  | none =>
      have hNone : pages.any (NamedPage.isNamed form) = false :=
        List.any_eq_false.2 (List.find?_eq_none.1 hFound)
      cases hForeign : foreign.isNamed form with
      | true => simp
      | false => simp [hNone]

/-- Text that is decoded is malformed or has a root element. -/
theorem rootOfDecoded_ne_unknownEncoding (mark t : Text) (isWhole : Bool) :
    rootOfDecoded mark t isWhole ≠ .error .unknownEncoding := by
  unfold rootOfDecoded
  cases rootElement t with
  | ok root => cases isWhole <;> simp
  | error fault =>
      simp only
      split <;> simp

/-- A document is in an unknown encoding exactly if it declares a name without a meaning. -/
theorem Element.ofOctets_eq_unknownEncoding_iff {octets : List UInt8} :
    ofOctets octets = .error .unknownEncoding ↔
      ∃ name count,
        declaredEncoding? (Encoding.detect octets).1 (Encoding.detect octets).2 =
          some (name, count) ∧
        NamedEncoding.ofName (Encoding.detect octets).1 name = .unknown := by
  unfold ofOctets
  simp only
  cases hDeclared : declaredEncoding? (Encoding.detect octets).1 (Encoding.detect octets).2 with
  | none => simp [rootOfDecoded_ne_unknownEncoding]
  | some declared =>
      obtain ⟨name, count⟩ := declared
      cases hName : NamedEncoding.ofName (Encoding.detect octets).1 name with
      | encoding e => simp [rootOfDecoded_ne_unknownEncoding, hName]
      | unfit => simp [hName]
      | unusable => simp [hName]
      | unknown => simp [hName]

/-! ## A name that no page has -/

namespace NamedPage

/-- The words of a string, read off its characters.  A string itself is kept as octets, and
reading the characters off these takes long where a proof evaluates it. -/
theorem words_ofList (characters : List Char) :
    words (String.ofList characters) = Text.splitOn ' ' (characters.map CodePoint.ofChar) := by
  rw [words, Text.ofString, String.toList_ofList]

theorem isNamed_foreignNames_foo : foreignNames.isNamed ("foo" : Text) = false := by
  simp only [foreignNames, ofUpper, isNamed]
  repeat rw [← String.ofList_append]
  repeat rw [words_ofList]
  decide +kernel

theorem any_isNamed_foo : all.any (isNamed ("foo" : Text)) = false := by
  simp only [all, ofSubsets, withControls, ofWindows, ofTerminals, ofMacintosh, others, ofUpper,
    ofRest, isNamed, List.any_append, List.any_cons, List.any_nil]
  repeat rw [← String.ofList_append]
  repeat rw [words_ofList]
  decide +kernel

end NamedPage

theorem NamedEncoding.ofName_foo : ofName .utf8 "foo" = .unknown := by
  have hLower : Text.lowerAscii "foo" = ("foo" : Text) := by decide +kernel
  have hForm : NamedPage.plainForm "foo" = ("foo" : Text) := by decide +kernel
  have hOther : ofOtherName "foo" = .unknown := by
    rw [ofOtherName_eq_unknown_iff, hForm]
    exact ⟨NamedPage.any_isNamed_foo, NamedPage.isNamed_foreignNames_foo⟩
  unfold ofName
  simp only [hLower]
  rw [if_neg, if_neg, if_neg, if_neg, if_neg, if_neg]
  · exact hOther
  all_goals decide +kernel

end SpringAudit.Xml

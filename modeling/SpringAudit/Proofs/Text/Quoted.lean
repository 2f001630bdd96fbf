import SpringAudit.Proofs.Text.Basic
import SpringAudit.Proofs.Text.Numeral
import SpringAudit.Text.Quoted

/-!
# Reading quoted text back

`readPiece` reads one piece of quoted text, a code point or an escape, from the front of a text
and stops at the closing mark.  It reads back what was written for a code point, whatever
follows (`readPiece_escaped`).  So a quoted text shows where it ends and which text it is the
form of, also in front of other text (`quoted_append_inj`).

All that is written is printable (`isPrintable_of_mem_quoted`); in particular there is no line
end in it.
-/

namespace SpringAudit

theorem CodePoint.IsShownAscii.isPrintable {c : CodePoint} (h : c.IsShownAscii) :
    c.isPrintable = true := by
  have hDisjoint : CodeRanges.areDisjoint [(0x20, 0x7E)] unprintableRanges = true := by
    decide +kernel
  have hContains : CodeRanges.contains [(0x20, 0x7E)] c.toNat = true := by
    simp [CodeRanges.contains, h.1, h.2]
  rw [CodePoint.isPrintable, CodeRanges.contains_eq_false_of_areDisjoint hDisjoint hContains]
  rfl

namespace Text

/-- A mark that texts are quoted with. -/
def IsMark (mark : CodePoint) : Prop :=
  mark = '\'' ∨ mark = '"'

theorem isMark_quotationMark (t : Text) : IsMark t.quotationMark := by
  unfold quotationMark
  split
  · exact .inr rfl
  · exact .inl rfl

/-! ## One piece -/

/-- The code point that hexadecimal digits in front of a text denote, and what follows them. -/
def readDigits (width : Nat) (t : Text) : CodePoint × Text :=
  (CodePoint.ofNat (numeral 16 (t.take width)), t.drop width)

/-- What stands behind a backslash: the code point that it stands for and what follows. -/
def readEscape : Text → Option (CodePoint × Text)
  | [] => none
  | c :: rest =>
    if c = 't' then some ('\t', rest)
    else if c = 'n' then some ('\n', rest)
    else if c = 'r' then some ('\r', rest)
    else if c = 'x' then some (readDigits 2 rest)
    else if c = 'u' then some (readDigits 4 rest)
    else if c = 'U' then some (readDigits 8 rest)
    else some (c, rest)

/-- The code point of the first piece and what follows; there is none in front of the mark. -/
def readPiece (mark : CodePoint) : Text → Option (CodePoint × Text)
  | [] => none
  | c :: rest =>
    if c = mark then none
    else if c = '\\' then readEscape rest
    else some (c, rest)

theorem readDigits_hex {c : CodePoint} {width : Nat} (h : c.toNat < 16 ^ width) (rest : Text) :
    readDigits width (hex width c.toNat ++ rest) = (c, rest) := by
  rw [readDigits, List.take_left' (length_hex width c.toNat),
    List.drop_left' (length_hex width c.toNat), numeral_hex_of_lt h, CodePoint.ofNat_toNat]

section Pieces

variable {mark : CodePoint}

theorem readPiece_mark (mark : CodePoint) (rest : Text) : readPiece mark (mark :: rest) = none :=
  if_pos rfl

theorem readPiece_backslash (hMark : IsMark mark) (rest : Text) :
    readPiece mark ('\\' :: rest) = readEscape rest := by
  rw [readPiece, if_neg, if_pos rfl]
  rcases hMark with rfl | rfl <;> decide

/-- What is written for a code point is read back as this code point. -/
theorem readPiece_escaped (hMark : IsMark mark) (c : CodePoint) (rest : Text) :
    readPiece mark (escaped mark c ++ rest) = some (c, rest) := by
  unfold escaped
  split
  · next hSelf =>
    -- The mark and the backslash stand for themselves behind a backslash.
    rw [List.cons_append, readPiece_backslash hMark]
    rcases hSelf with rfl | rfl
    · rcases hMark with rfl | rfl <;> rfl
    · rfl
  split
  · next hTab =>
    subst hTab
    exact readPiece_backslash hMark _
  split
  · next hFeed =>
    subst hFeed
    exact readPiece_backslash hMark _
  split
  · next hReturn =>
    subst hReturn
    exact readPiece_backslash hMark _
  split
  · next hSelf _ _ _ _ =>
    rw [not_or] at hSelf
    rw [List.singleton_append, readPiece, if_neg hSelf.1, if_neg hSelf.2]
  split
  · next hLow =>
    exact (readPiece_backslash hMark _).trans (congrArg some (readDigits_hex hLow rest))
  split
  · next hLow =>
    exact (readPiece_backslash hMark _).trans (congrArg some (readDigits_hex hLow rest))
  · have hLow : c.toNat < 16 ^ 8 := Nat.lt_trans c.isLt (by decide)
    exact (readPiece_backslash hMark _).trans (congrArg some (readDigits_hex hLow rest))

/-- Two texts that are written between the same marks, whatever follows, are the same. -/
theorem flatMap_escaped_inj (hMark : IsMark mark) {s t rest more : Text}
    (h : s.flatMap (escaped mark) ++ mark :: rest = t.flatMap (escaped mark) ++ mark :: more) :
    s = t ∧ rest = more := by
  induction s generalizing t with
  | nil =>
      cases t with
      | nil => exact ⟨rfl, (List.cons.inj h).2⟩
      | cons d t =>
          have hRead := congrArg (readPiece mark) h
          rw [List.flatMap_nil, List.nil_append, readPiece_mark, List.flatMap_cons,
            List.append_assoc, readPiece_escaped hMark] at hRead
          cases hRead
  | cons c s ih =>
      have hRead := congrArg (readPiece mark) h
      rw [List.flatMap_cons, List.append_assoc, readPiece_escaped hMark] at hRead
      cases t with
      | nil =>
          rw [List.flatMap_nil, List.nil_append, readPiece_mark] at hRead
          cases hRead
      | cons d t =>
          rw [List.flatMap_cons, List.append_assoc, readPiece_escaped hMark, Option.some.injEq,
            Prod.mk.injEq] at hRead
          obtain ⟨rfl, hRest⟩ := hRead
          obtain ⟨rfl, hMore⟩ := ih hRest
          exact ⟨rfl, hMore⟩

end Pieces

/-- A quoted text shows where it ends and which text it is the form of. -/
theorem quoted_append_inj {s t rest more : Text} (h : quoted s ++ rest = quoted t ++ more) :
    s = t ∧ rest = more := by
  simp only [quoted, List.cons_append, List.append_assoc, List.nil_append,
    List.cons.injEq] at h
  obtain ⟨hSameMark, hBody⟩ := h
  rw [hSameMark] at hBody
  exact flatMap_escaped_inj (isMark_quotationMark t) hBody

/-! ## What is written -/

section Written

variable {mark c d : CodePoint} {t : Text}

theorem IsMark.isShownAscii (h : IsMark mark) : mark.IsShownAscii := by
  rcases h with rfl | rfl <;> decide

theorem isShownAscii_of_mem_hex {width n : Nat} (h : c ∈ hex width n) : c.IsShownAscii :=
  CodePoint.isShownAscii_of_isHexDigit (isHexDigit_of_mem_hex h)

/-- Only printable code points stand for themselves; all else that is written is ASCII. -/
theorem isPrintable_of_mem_escaped (hMark : IsMark mark) (h : d ∈ escaped mark c) :
    d.isPrintable = true := by
  have hConstant (written : Text) (hAscii : ∀ e ∈ written, e.IsShownAscii) (hMem : d ∈ written) :
      d.isPrintable = true := (hAscii d hMem).isPrintable
  have hDigits (start : Text) (hAscii : ∀ e ∈ start, e.IsShownAscii) {width : Nat}
      (hMem : d ∈ start ++ hex width c.toNat) : d.isPrintable = true := by
    rcases List.mem_append.1 hMem with hStart | hHex
    · exact hConstant start hAscii hStart
    · exact (isShownAscii_of_mem_hex hHex).isPrintable
  unfold escaped at h
  split at h
  · next hSelf =>
    refine hConstant _ (fun e hMem => ?_) h
    rcases List.mem_cons.1 hMem with rfl | hMem
    · decide
    · obtain rfl := List.mem_singleton.1 hMem
      rcases hSelf with rfl | rfl
      · exact hMark.isShownAscii
      · decide
  split at h
  · exact hConstant _ (by decide) h
  split at h
  · exact hConstant _ (by decide) h
  split at h
  · exact hConstant _ (by decide) h
  split at h
  · next hPrintable =>
    obtain rfl := List.mem_singleton.1 h
    exact hPrintable
  split at h
  · exact hDigits _ (by decide) h
  split at h
  · exact hDigits _ (by decide) h
  · exact hDigits _ (by decide) h

/-- All of a quoted text is printable, whatever the text is. -/
theorem isPrintable_of_mem_quoted (h : c ∈ quoted t) : c.isPrintable = true := by
  have hMark := isMark_quotationMark t
  rw [quoted, List.cons_append, List.mem_cons, List.mem_append, List.mem_flatMap,
    List.mem_singleton] at h
  rcases h with rfl | ⟨d, -, hPiece⟩ | rfl
  · exact hMark.isShownAscii.isPrintable
  · exact isPrintable_of_mem_escaped hMark hPiece
  · exact hMark.isShownAscii.isPrintable

end Written

end Text

end SpringAudit

import Mathlib.Data.List.TakeWhile
import SpringAudit.Text.Basic

/-!
# Texts and their pieces

What a text does not start with.  What joined texts start and end with, how a separator is
replaced, and that splitting them gives the texts back.  When two classes of code points have
none in common.
-/

namespace SpringAudit

namespace CodeRanges

/-- Two classes have no code point in common. -/
def areDisjoint (a b : CodeRanges) : Bool :=
  a.all fun r => b.all fun s => decide (r.2 < s.1) || decide (s.2 < r.1)

theorem contains_eq_false_of_areDisjoint {a b : CodeRanges} {n : Nat}
    (h : areDisjoint a b = true) (hContains : a.contains n = true) : b.contains n = false := by
  obtain ⟨r, hr, hLow, hHigh⟩ := contains_iff.1 hContains
  cases hBoth : b.contains n with
  | false => rfl
  | true =>
      obtain ⟨s, hs, hLow', hHigh'⟩ := contains_iff.1 hBoth
      have hApart := List.all_eq_true.1 (List.all_eq_true.1 h r hr) s hs
      simp only [Bool.or_eq_true, decide_eq_true_eq] at hApart
      omega

end CodeRanges

namespace CodePoint

/-- The space and the visible ASCII characters. -/
def IsShownAscii (c : CodePoint) : Prop :=
  0x20 ≤ c.toNat ∧ c.toNat ≤ 0x7E

instance (c : CodePoint) : Decidable c.IsShownAscii :=
  inferInstanceAs (Decidable (0x20 ≤ c.toNat ∧ c.toNat ≤ 0x7E))

theorem isShownAscii_of_isHexDigit {c : CodePoint} (h : c.isHexDigit = true) :
    c.IsShownAscii := by
  rw [isHexDigit, hexValue?] at h
  unfold IsShownAscii
  split at h
  · omega
  split at h
  · omega
  split at h
  · omega
  · cases h

end CodePoint

/-- A text does not start with what begins otherwise. -/
theorem startsWith_eq_false {c d : CodePoint} {rest beginning more : Text}
    (hBeginning : beginning = d :: more) (h : c ≠ d) :
    Text.startsWith (c :: rest) beginning = false := by
  have hBeq : (d == c) = false := by simpa using fun hSame : d = c => h hSame.symm
  rw [hBeginning, Text.startsWith, List.isPrefixOf_cons_cons, hBeq, Bool.false_and]

namespace Text

variable {separator c : CodePoint} {texts : List Text}

theorem ofString_eq_nil_iff {s : String} : ofString s = [] ↔ s = "" := by
  rw [ofString, List.map_eq_nil_iff, String.toList_eq_nil_iff]

theorem join_cons_cons (separator : CodePoint) (s t : Text) (rest : List Text) :
    join [separator] (s :: t :: rest) = s ++ separator :: join [separator] (t :: rest) := by
  simp [join]

/-- What is joined to a first text stands behind it, each text with a separator before it. -/
theorem join_cons (between s : Text) (rest : List Text) :
    join between (s :: rest) = s ++ rest.flatMap (between ++ ·) := by
  induction rest generalizing s with
  | nil => rw [join, List.flatMap_nil, List.append_nil]
  | cons t rest ih => rw [join, ih, List.flatMap_cons, List.append_assoc, List.append_assoc]

theorem join_append_cons (separator : CodePoint) (s t : Text) (rest : List Text) :
    join [separator] ((s ++ t) :: rest) = s ++ join [separator] (t :: rest) := by
  cases rest <;> simp [join]

/-- A text that is joined at the end comes after a separator. -/
theorem join_concat (separator : CodePoint) (t : Text) (hSome : texts ≠ []) :
    join [separator] (texts ++ [t]) = join [separator] texts ++ separator :: t := by
  induction texts with
  | nil => exact absurd rfl hSome
  | cons s rest ih =>
      cases rest with
      | nil => exact join_cons_cons separator s t []
      | cons u rest =>
          rw [List.cons_append, List.cons_append, join_cons_cons, ← List.cons_append,
            ih (List.cons_ne_nil u rest), join_cons_cons, List.append_assoc, List.cons_append]

theorem exists_join_cons (separator : CodePoint) (s : Text) (rest : List Text) :
    ∃ more, join [separator] (s :: rest) = s ++ more := by
  cases rest with
  | nil => exact ⟨[], by simp [join]⟩
  | cons t rest => exact ⟨_, join_cons_cons separator s t rest⟩

/-- What stands in joined texts stands in the separator or in one of them. -/
theorem mem_join {between : Text} (h : c ∈ join between texts) :
    c ∈ between ∨ ∃ t ∈ texts, c ∈ t := by
  induction texts with
  | nil => cases h
  | cons s rest ih =>
      cases rest with
      | nil => exact .inr ⟨s, List.mem_cons_self, h⟩
      | cons t rest =>
          rw [join, List.mem_append, List.mem_append] at h
          rcases h with (hHere | hBetween) | hRest
          · exact .inr ⟨s, List.mem_cons_self, hHere⟩
          · exact .inl hBetween
          · refine (ih hRest).imp_right ?_
            rintro ⟨u, hu, hc⟩
            exact ⟨u, List.mem_cons_of_mem _ hu, hc⟩

/-- The separators of joined texts are those between them, if none stands in a text. -/
theorem count_join (h : ∀ t ∈ texts, separator ∉ t) :
    (join [separator] texts).count separator = texts.length - 1 := by
  induction texts with
  | nil => rfl
  | cons first texts ih =>
      rw [List.forall_mem_cons] at h
      have hFirst : first.count separator = 0 := List.count_eq_zero.2 h.1
      cases texts with
      | nil => exact hFirst
      | cons next texts =>
          rw [join_cons_cons, List.count_append, List.count_cons_self, hFirst, ih h.2]
          simp only [List.length_cons]
          omega

theorem join_ne_nil (hSome : texts ≠ []) (hTexts : ∀ t ∈ texts, t ≠ []) :
    join [separator] texts ≠ [] := by
  cases texts with
  | nil => exact absurd rfl hSome
  | cons s rest =>
      have hFirst := hTexts s List.mem_cons_self
      cases rest <;> simp [join, hFirst]

/-- Joined texts start in one of them. -/
theorem mem_of_head?_join (hTexts : ∀ t ∈ texts, t ≠ []) (h : c ∈ (join [separator] texts).head?) :
    ∃ t ∈ texts, c ∈ t := by
  cases texts with
  | nil => cases h
  | cons s rest =>
      refine ⟨s, List.mem_cons_self, List.mem_of_mem_head? ?_⟩
      obtain ⟨d, s, rfl⟩ := List.exists_cons_of_ne_nil (hTexts s List.mem_cons_self)
      cases rest <;> exact h

/-- Joined texts end in one of them. -/
theorem mem_of_getLast?_join (hTexts : ∀ t ∈ texts, t ≠ [])
    (h : c ∈ (join [separator] texts).getLast?) : ∃ t ∈ texts, c ∈ t := by
  induction texts with
  | nil => cases h
  | cons s rest ih =>
      cases rest with
      | nil => exact ⟨s, List.mem_cons_self, List.mem_of_mem_getLast? h⟩
      | cons t rest =>
          rw [List.forall_mem_cons] at hTexts
          have hRest : join [separator] (t :: rest) ≠ [] := join_ne_nil (by simp) hTexts.2
          rw [join_cons_cons, ← List.singleton_append, ← List.append_assoc,
            List.getLast?_append, List.getLast?_eq_some_getLast hRest, Option.some_or,
            ← List.getLast?_eq_some_getLast hRest] at h
          obtain ⟨u, hu, hc⟩ := ih hTexts.2 h
          exact ⟨u, List.mem_cons_of_mem _ hu, hc⟩

/-- Other separators can be put between texts that hold none. -/
theorem map_join {other : CodePoint} (hTexts : ∀ t ∈ texts, ∀ c ∈ t, c ≠ separator) :
    (join [separator] texts).map (fun c => if c = separator then other else c) =
      join [other] texts := by
  induction texts with
  | nil => rfl
  | cons s rest ih =>
      rw [List.forall_mem_cons] at hTexts
      have hFirst : s.map (fun c => if c = separator then other else c) = s := by
        rw [List.map_congr_left fun c hMem => if_neg (hTexts.1 c hMem), List.map_id']
      cases rest with
      | nil => exact hFirst
      | cons t rest =>
          rw [join_cons_cons, join_cons_cons, List.map_append, hFirst, List.map_cons, if_pos rfl,
            ih hTexts.2]

theorem splitOn_of_plain {s : Text} (h : ∀ c ∈ s, c ≠ separator) : splitOn separator s = [s] := by
  induction s with
  | nil => rfl
  | cons c s ih =>
      rw [List.forall_mem_cons] at h
      rw [splitOn, if_neg h.1, ih h.2]

theorem splitOn_append_cons {s t : Text} (h : ∀ c ∈ s, c ≠ separator) :
    splitOn separator (s ++ separator :: t) = s :: splitOn separator t := by
  induction s with
  | nil => rw [List.nil_append, splitOn, if_pos rfl]
  | cons c s ih =>
      rw [List.forall_mem_cons] at h
      rw [List.cons_append, splitOn, if_neg h.1, ih h.2]

/-- Texts that hold no separator are the pieces of what they are joined to. -/
theorem splitOn_join (hSome : texts ≠ []) (hTexts : ∀ t ∈ texts, ∀ c ∈ t, c ≠ separator) :
    splitOn separator (join [separator] texts) = texts := by
  induction texts with
  | nil => exact absurd rfl hSome
  | cons s rest ih =>
      rw [List.forall_mem_cons] at hTexts
      cases rest with
      | nil => exact splitOn_of_plain hTexts.1
      | cons t rest =>
          rw [join_cons_cons, splitOn_append_cons hTexts.1, ih (by simp) hTexts.2]

/-- Texts that hold no separator are told by what they are joined to. -/
theorem eq_of_join_eq_join {texts' : List Text} (hSome : texts ≠ []) (hSome' : texts' ≠ [])
    (hTexts : ∀ t ∈ texts, separator ∉ t) (hTexts' : ∀ t ∈ texts', separator ∉ t)
    (h : join [separator] texts = join [separator] texts') : texts = texts' := by
  have hPlain {texts : List Text} (hTexts : ∀ t ∈ texts, separator ∉ t) :
      ∀ t ∈ texts, ∀ c ∈ t, c ≠ separator := by
    rintro t hText c hMem rfl
    exact hTexts t hText hMem
  rw [← splitOn_join hSome (hPlain hTexts), h, splitOn_join hSome' (hPlain hTexts')]

/-- If none of the texts is empty, there may also be none at all. -/
theorem join_inj {texts' : List Text} (hTexts : ∀ t ∈ texts, t ≠ [] ∧ separator ∉ t)
    (hTexts' : ∀ t ∈ texts', t ≠ [] ∧ separator ∉ t)
    (h : join [separator] texts = join [separator] texts') : texts = texts' := by
  have hNone {texts : List Text} (hTexts : ∀ t ∈ texts, t ≠ [] ∧ separator ∉ t)
      (hEmpty : join [separator] texts = []) : texts = [] := by
    by_contra hSome
    exact join_ne_nil hSome (fun t hText => (hTexts t hText).1) hEmpty
  by_cases hSome : texts = []
  · rw [hSome] at h ⊢
    exact (hNone hTexts' h.symm).symm
  · have hSome' : texts' ≠ [] := by
      rintro rfl
      exact hSome (hNone hTexts h)
    exact eq_of_join_eq_join hSome hSome' (fun t hText => (hTexts t hText).2)
      (fun t hText => (hTexts' t hText).2) h

theorem repeated_succ (n : Nat) (t : Text) : repeated (n + 1) t = repeated n t ++ t := by
  rw [repeated, repeated, List.replicate_succ', List.flatten_append, List.flatten_singleton]

theorem mem_of_mem_repeated {n : Nat} {t : Text} (h : c ∈ repeated n t) : c ∈ t := by
  obtain ⟨copy, hCopy, hMem⟩ := List.mem_flatten.1 h
  rwa [List.eq_of_mem_replicate hCopy] at hMem

theorem count_repeated (n : Nat) (t : Text) (c : CodePoint) :
    (repeated n t).count c = n * t.count c := by
  induction n with
  | zero => exact (Nat.zero_mul _).symm
  | succ n ih => rw [repeated_succ, List.count_append, ih, Nat.succ_mul]

/-- What is to be dropped before a text is taken away, if nothing is to be dropped at the ends
of this. -/
theorem stripBy_append {drop : CodePoint → Bool} {before t : Text}
    (hBefore : ∀ c ∈ before, drop c = true) (hStart : ∀ c ∈ t.head?, drop c = false)
    (hEnd : ∀ c ∈ t.getLast?, drop c = false) : stripBy drop (before ++ t) = t := by
  have hKeep : ∀ u : Text, (∀ c ∈ u.head?, drop c = false) → u.dropWhile drop = u := by
    intro u hHead
    cases u with
    | nil => rfl
    | cons c u => exact List.dropWhile_cons_of_neg (by simp [hHead c rfl])
  rw [stripBy, List.dropWhile_append_of_pos hBefore, hKeep t hStart,
    hKeep t.reverse (by simpa using hEnd), List.reverse_reverse]

end Text

end SpringAudit

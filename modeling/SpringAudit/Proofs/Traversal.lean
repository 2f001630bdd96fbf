import Mathlib.Data.List.Forall2
import Mathlib.Data.List.Nodup

/-!
# Computations that may fail, one after another

A traversal in `Except` ends at the first element on which it fails.  The two
exact descriptions are `mapM_eq_ok_iff` and `mapM_eq_error_iff`.  Where only the
fact of a failure matters and not its cause, `IsError` leaves the cause out.

The results of a traversal stand beside its list, so facts on lists side by side come
first.  With them stands what a lookup says in a list of entries with distinct keys.
-/

namespace SpringAudit

variable {ε α β : Type}

/-! ## Failing at all -/

/-- Whether a computation ends in an error, whichever it is. -/
def IsError (x : Except ε α) : Prop :=
  ∃ e, x = .error e

@[simp] theorem not_isError_ok (a : α) : ¬ IsError (.ok a : Except ε α) := by
  rintro ⟨e, h⟩
  cases h

@[simp] theorem isError_error (e : ε) : IsError (.error e : Except ε α) :=
  ⟨e, rfl⟩

theorem not_isError_iff {x : Except ε α} : ¬ IsError x ↔ ∃ a, x = .ok a := by
  cases x with
  | error e => simp
  | ok a => simp

/-- A computation that leaves a result when its error is forgotten has succeeded with it. -/
theorem toOption_eq_some_iff {x : Except ε α} {a : α} : x.toOption = some a ↔ x = .ok a := by
  cases x with
  | error e => simp [Except.toOption]
  | ok b => simp [Except.toOption]

@[simp] theorem isError_map {f : α → β} {x : Except ε α} : IsError (x.map f) ↔ IsError x := by
  cases x with
  | error e => simp [Except.map]
  | ok a => simp [Except.map]

theorem map_eq_ok_iff {f : α → β} {x : Except ε α} {b : β} :
    x.map f = .ok b ↔ ∃ a, x = .ok a ∧ f a = b := by
  cases x with
  | error e => simp [Except.map]
  | ok a => simp [Except.map]

/-- A computation in two steps succeeds if both do. -/
theorem bind_eq_ok_iff {x : Except ε α} {f : α → Except ε β} {b : β} :
    (x >>= f) = .ok b ↔ ∃ a, x = .ok a ∧ f a = .ok b := by
  cases x with
  | error e => simp [bind, Except.bind]
  | ok a => simp [bind, Except.bind]

/-- A computation in two steps fails in the first or, if that succeeds, in the second. -/
theorem bind_eq_error_iff {x : Except ε α} {f : α → Except ε β} {e : ε} :
    (x >>= f) = .error e ↔ x = .error e ∨ ∃ a, x = .ok a ∧ f a = .error e := by
  cases x with
  | error e => simp [bind, Except.bind]
  | ok a => simp [bind, Except.bind]

/-- What is made of a result at the end does not change the error. -/
theorem bind_pure_eq_error_iff {x : Except ε α} {f : α → β} {e : ε} :
    (x >>= fun a => pure (f a)) = .error e ↔ x = .error e := by
  cases x with
  | error e' => simp [bind, Except.bind]
  | ok a => simp [bind, Except.bind, pure, Except.pure]

/-- If the failure of the second step does not depend on the first one's result, either of
them suffices. -/
theorem isError_bind_of_iff {x : Except ε α} {f : α → Except ε β} {p : Prop}
    (hSecond : ∀ a, IsError (f a) ↔ p) : IsError (x >>= f) ↔ IsError x ∨ p := by
  cases x with
  | error e => simp [bind, Except.bind]
  | ok a => simp [bind, Except.bind, hSecond]

/-- A second step that never fails does not count. -/
theorem isError_bind_of_total {x : Except ε α} {f : α → Except ε β}
    (hTotal : ∀ a, ¬ IsError (f a)) : IsError (x >>= f) ↔ IsError x := by
  have hNever (a : α) : IsError (f a) ↔ False := iff_false_intro (hTotal a)
  rw [isError_bind_of_iff hNever, or_false]

@[simp] theorem isError_bind_pure {x : Except ε α} {f : α → β} :
    IsError (x >>= fun a => pure (f a)) ↔ IsError x :=
  isError_bind_of_total fun a => not_isError_ok (f a)

/-! ## Lists side by side -/

section SideBySide

variable {R : α → β → Prop}

/-- Something belongs to a whole list exactly if something belongs to each of its elements. -/
theorem exists_forall₂_iff {l : List α} :
    (∃ results, List.Forall₂ R l results) ↔ ∀ a ∈ l, ∃ b, R a b := by
  induction l with
  | nil => simp
  | cons a rest ih =>
      rw [List.forall_mem_cons, ← ih]
      constructor
      · rintro ⟨_, hBoth⟩
        cases hBoth with
        | cons hFirst hRest => exact ⟨⟨_, hFirst⟩, _, hRest⟩
      · rintro ⟨⟨b, hFirst⟩, results, hRest⟩
        exact ⟨b :: results, .cons hFirst hRest⟩

/-- What belongs to two lists one after the other can be split between them. -/
theorem exists_append_of_forall₂ {front back : List α} {results : List β}
    (h : List.Forall₂ R (front ++ back) results) :
    ∃ first last, List.Forall₂ R front first ∧ List.Forall₂ R back last ∧
      results = first ++ last :=
  ⟨results.take front.length, results.drop front.length,
    (List.forall₂_take_append results front back h.flip).flip,
    (List.forall₂_drop_append results front back h.flip).flip,
    (List.take_append_drop _ _).symm⟩

theorem rel_head? {l : List α} {l' : List β} (h : List.Forall₂ R l l') :
    Option.Rel R l.head? l'.head? := by
  cases h with
  | nil => exact .none
  | cons hHead _ => exact .some hHead

/-- Corresponding lists have corresponding last elements. -/
theorem rel_getLast? {l : List α} {l' : List β} (h : List.Forall₂ R l l') :
    Option.Rel R l.getLast? l'.getLast? := by
  rw [← List.head?_reverse, ← List.head?_reverse]
  exact rel_head? (List.rel_reverse h)

theorem rel_map {γ δ : Type} {S : γ → δ → Prop} {f : α → γ} {g : β → δ} {x : Option α}
    {y : Option β} (h : Option.Rel R x y) (hMap : ∀ a b, R a b → S (f a) (g b)) :
    Option.Rel S (x.map f) (y.map g) := by
  cases h with
  | none => exact .none
  | some hRel => exact .some (hMap _ _ hRel)

end SideBySide

/-! ## Entries with distinct keys -/

/-- In a list of entries with distinct keys a lookup finds each of them, whatever test of
equality it uses. -/
theorem lookup_eq_some_iff_mem [BEq α] [LawfulBEq α] {entries : List (α × β)}
    (hKeys : (entries.map Prod.fst).Nodup) {k : α} {v : β} :
    entries.lookup k = some v ↔ (k, v) ∈ entries := by
  induction entries with
  | nil => simp
  | cons entry rest ih =>
      obtain ⟨key, value⟩ := entry
      rw [List.map_cons, List.nodup_cons] at hKeys
      rw [List.lookup_cons, List.mem_cons]
      by_cases hSame : k = key
      · subst hSame
        -- The key does not occur again, so the rest has nothing to say about it.
        have hAbsent : (k, v) ∉ rest := fun hMem => hKeys.1 (List.mem_map.2 ⟨_, hMem, rfl⟩)
        simp [hAbsent, eq_comm]
      · have hBeq : (k == key) = false := by simpa using hSame
        simp [hBeq, hSame, ih hKeys.2]

/-! ## Traversals -/

section Traversals

variable {f : α → Except ε β} {l : List α}

/-- A traversal succeeds exactly with the results of all elements. -/
theorem mapM_eq_ok_iff {results : List β} :
    l.mapM f = .ok results ↔ List.Forall₂ (fun a b => f a = .ok b) l results := by
  induction l generalizing results with
  | nil =>
      rw [List.mapM_nil, List.forall₂_nil_left_iff]
      exact ⟨fun h => (Except.ok.inj h).symm, fun h => congrArg Except.ok h.symm⟩
  | cons a rest ih =>
      rw [List.mapM_cons, bind_eq_ok_iff, List.forall₂_cons_left_iff]
      constructor
      · rintro ⟨b, hFirst, hMore⟩
        obtain ⟨more, hRest, hResults⟩ := bind_eq_ok_iff.1 hMore
        exact ⟨b, more, hFirst, ih.1 hRest, (Except.ok.inj hResults).symm⟩
      · rintro ⟨b, more, hFirst, hRest, rfl⟩
        exact ⟨b, hFirst, bind_eq_ok_iff.2 ⟨more, ih.2 hRest, rfl⟩⟩

/-- The results of a traversal that succeeds are those of its elements. -/
theorem mem_of_mapM_eq_ok {results : List β} (h : l.mapM f = .ok results) (b : β) :
    b ∈ results ↔ ∃ a ∈ l, f a = .ok b := by
  induction mapM_eq_ok_iff.1 h with
  | nil => simp
  | @cons a result rest more hFirst hRest ih =>
      rw [List.mem_cons, ih (mapM_eq_ok_iff.2 hRest)]
      simp only [List.mem_cons, exists_eq_or_imp, hFirst, Except.ok.injEq, eq_comm (a := b)]

/-- A traversal fails exactly with the error of the first element that has one. -/
theorem mapM_eq_error_iff {e : ε} :
    l.mapM f = .error e ↔
      ∃ front a back, l = front ++ a :: back ∧ (∀ b ∈ front, ¬ IsError (f b)) ∧
        f a = .error e := by
  induction l with
  | nil => simp [pure, Except.pure]
  | cons first rest ih =>
      rw [List.mapM_cons]
      -- If the first element fails, nothing can stand in front of the one that is found.
      cases hFirst : f first with
      | error e' =>
          simp only [bind, Except.bind, Except.error.injEq]
          constructor
          · rintro rfl
            exact ⟨[], first, rest, rfl, by simp, hFirst⟩
          · rintro ⟨front, a, back, hList, hFront, hError⟩
            cases front with
            | nil =>
                obtain ⟨rfl, -⟩ : first = a ∧ rest = back := by simpa using hList
                exact Except.error.inj (hFirst.symm.trans hError)
            | cons b front =>
                obtain ⟨rfl, -⟩ : first = b ∧ rest = front ++ a :: back := by simpa using hList
                exact absurd ⟨e', hFirst⟩ (hFront first List.mem_cons_self)
      | ok result =>
          refine bind_pure_eq_error_iff.trans (ih.trans ⟨?_, ?_⟩)
          · rintro ⟨front, a, back, rfl, hFront, hError⟩
            refine ⟨first :: front, a, back, rfl, ?_, hError⟩
            intro b hMem
            rcases List.mem_cons.1 hMem with rfl | hMem
            · simp [hFirst]
            · exact hFront b hMem
          · rintro ⟨front, a, back, hList, hFront, hError⟩
            cases front with
            | nil =>
                obtain ⟨rfl, -⟩ : first = a ∧ rest = back := by simpa using hList
                rw [hFirst] at hError
                cases hError
            | cons b front =>
                obtain ⟨rfl, hRest⟩ : first = b ∧ rest = front ++ a :: back := by
                  simpa using hList
                exact ⟨front, a, back, hRest,
                  fun c hMem => hFront c (List.mem_cons_of_mem first hMem), hError⟩

/-- A traversal fails exactly if some element does. -/
theorem isError_mapM : IsError (l.mapM f) ↔ ∃ a ∈ l, IsError (f a) := by
  induction l with
  | nil => simp [pure, Except.pure]
  | cons a rest ih =>
      have hRest (b : β) : IsError (do let more ← rest.mapM f; pure (b :: more)) ↔
          ∃ a ∈ rest, IsError (f a) := isError_bind_pure.trans ih
      rw [List.mapM_cons, isError_bind_of_iff hRest]
      simp only [List.mem_cons, exists_eq_or_imp]

end Traversals

end SpringAudit

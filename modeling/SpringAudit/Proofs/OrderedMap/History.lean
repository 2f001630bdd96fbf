import Mathlib.Data.List.Induction
import Mathlib.Data.Nat.Find
import SpringAudit.Proofs.OrderedMap.Lookup

/-!
# Maps and their histories

A history is any sequence of writes and erasures, and the time of one of them is the number
of those before it.  A write stands if its key is not erased later.

Two views determine the map that a history leaves.  A key holds the value of the last of its
standing writes (`get?_ofHistory_eq_some_iff`), and the keys are in the order of the first of
their standing writes (`keys_ofHistory_pairwise`).  So a key that is written again keeps its
place, and one that is erased and written again goes to the end.
-/

namespace SpringAudit.OrderedMap

variable {κ ν : Type}

/-- A change of a map. -/
inductive Change (κ ν : Type) where
  | write (key : κ) (value : ν)
  | erase (key : κ)

/-! ## Standing writes -/

/-- At a time a value is written to a key, and nothing erases the key later. -/
structure Stands (history : List (Change κ ν)) (k : κ) (time : Nat) (v : ν) : Prop where
  written : history[time]? = some (.write k v)
  kept : ∀ later, time < later → history[later]? ≠ some (.erase k)

/-- The value is that of the last standing write to the key. -/
def LastStanding (history : List (Change κ ν)) (k : κ) (v : ν) : Prop :=
  ∃ time, Stands history k time v ∧ ∀ other w, Stands history k other w → other ≤ time

/-- The time is that of the first standing write to the key. -/
def FirstStanding (history : List (Change κ ν)) (k : κ) (time : Nat) : Prop :=
  (∃ v, Stands history k time v) ∧ ∀ other w, Stands history k other w → time ≤ other

/-- The first standing write to one key comes before that to another. -/
def Precedes (history : List (Change κ ν)) (k l : κ) : Prop :=
  ∃ time later, FirstStanding history k time ∧ FirstStanding history l later ∧ time < later

section Standing

variable {history : List (Change κ ν)} {last : Change κ ν} {k l : κ} {time : Nat} {v w : ν}

/-- What a history with one more change has at a time. -/
theorem getElem?_concat_eq_some_iff {change : Change κ ν} :
    (history ++ [last])[time]? = some change ↔
      history[time]? = some change ∨ time = history.length ∧ last = change := by
  rcases Nat.lt_trichotomy time history.length with hBefore | rfl | hAfter
  · rw [List.getElem?_append_left hBefore]
    exact ⟨.inl, fun h => h.resolve_right fun hLast => by omega⟩
  · rw [List.getElem?_concat_length, List.getElem?_eq_none (Nat.le_refl _)]
    simp
  · rw [List.getElem?_eq_none (by simp; omega), List.getElem?_eq_none (by omega)]
    simp only [reduceCtorEq, false_or, false_iff]
    omega

theorem Stands.lt_length (h : Stands history k time v) : time < history.length :=
  (List.getElem?_eq_some_iff.1 h.written).1

/-- A new write stands, and the others stand as before. -/
theorem stands_concat_write_iff :
    Stands (history ++ [.write l w]) k time v ↔
      Stands history k time v ∨ time = history.length ∧ l = k ∧ w = v := by
  constructor
  · rintro ⟨hWritten, hKept⟩
    rcases getElem?_concat_eq_some_iff.1 hWritten with hBefore | ⟨hTime, hLast⟩
    · exact .inl ⟨hBefore, fun later hLater hErased =>
        hKept later hLater (getElem?_concat_eq_some_iff.2 (.inl hErased))⟩
    · exact .inr ⟨hTime, Change.write.inj hLast⟩
  · rintro (⟨hWritten, hKept⟩ | ⟨rfl, rfl, rfl⟩)
    · refine ⟨getElem?_concat_eq_some_iff.2 (.inl hWritten), fun later hLater hErased => ?_⟩
      rcases getElem?_concat_eq_some_iff.1 hErased with hBefore | ⟨-, hLast⟩
      · exact hKept later hLater hBefore
      · cases hLast
    · refine ⟨getElem?_concat_eq_some_iff.2 (.inr ⟨rfl, rfl⟩), fun later hLater hErased => ?_⟩
      -- Nothing comes after the last change.
      rw [List.getElem?_eq_none (by simp; omega)] at hErased
      cases hErased

/-- After an erasure no write to its key stands, and those to other keys stand as before. -/
theorem stands_concat_erase_iff :
    Stands (history ++ [.erase l]) k time v ↔ k ≠ l ∧ Stands history k time v := by
  constructor
  · rintro ⟨hWritten, hKept⟩
    rcases getElem?_concat_eq_some_iff.1 hWritten with hBefore | ⟨-, hLast⟩
    · have hLater : time < history.length := (List.getElem?_eq_some_iff.1 hBefore).1
      refine ⟨?_, hBefore, fun later hLater hErased =>
        hKept later hLater (getElem?_concat_eq_some_iff.2 (.inl hErased))⟩
      rintro rfl
      exact hKept history.length hLater (getElem?_concat_eq_some_iff.2 (.inr ⟨rfl, rfl⟩))
    · cases hLast
  · rintro ⟨hOther, hWritten, hKept⟩
    refine ⟨getElem?_concat_eq_some_iff.2 (.inl hWritten), fun later hLater hErased => ?_⟩
    rcases getElem?_concat_eq_some_iff.1 hErased with hBefore | ⟨-, hLast⟩
    · exact hKept later hLater hBefore
    · exact hOther (Change.erase.inj hLast).symm

theorem not_stands_nil : ¬ Stands ([] : List (Change κ ν)) k time v := fun h =>
  Nat.not_lt_zero time h.lt_length

/-- A new write is the last one to its key. -/
theorem lastStanding_concat_write_self_iff :
    LastStanding (history ++ [.write k w]) k v ↔ w = v := by
  have hNew : Stands (history ++ [.write k w]) k history.length w :=
    stands_concat_write_iff.2 (.inr ⟨rfl, rfl, rfl⟩)
  constructor
  · rintro ⟨time, hStands, hLast⟩
    rcases stands_concat_write_iff.1 hStands with hBefore | ⟨-, -, hValue⟩
    · exact absurd hBefore.lt_length (Nat.not_lt_of_le (hLast _ _ hNew))
    · exact hValue
  · rintro rfl
    refine ⟨history.length, hNew, fun other u hOther => ?_⟩
    rcases stands_concat_write_iff.1 hOther with hBefore | ⟨rfl, -, -⟩
    · exact Nat.le_of_lt hBefore.lt_length
    · exact Nat.le_refl _

theorem lastStanding_concat_write_iff (hOther : k ≠ l) :
    LastStanding (history ++ [.write l w]) k v ↔ LastStanding history k v := by
  have hIff (time : Nat) (u : ν) :
      Stands (history ++ [.write l w]) k time u ↔ Stands history k time u := by
    rw [stands_concat_write_iff]
    exact or_iff_left fun h => hOther h.2.1.symm
  simp only [LastStanding, hIff]

theorem lastStanding_concat_erase_iff :
    LastStanding (history ++ [.erase l]) k v ↔ k ≠ l ∧ LastStanding history k v := by
  simp only [LastStanding, stands_concat_erase_iff]
  constructor
  · rintro ⟨time, ⟨hOther, hStands⟩, hLast⟩
    exact ⟨hOther, time, hStands, fun other u h => hLast other u ⟨hOther, h⟩⟩
  · rintro ⟨hOther, time, hStands, hLast⟩
    exact ⟨time, ⟨hOther, hStands⟩, fun other u h => hLast other u h.2⟩

/-- A key with a standing write has a first one. -/
theorem exists_firstStanding (h : ∃ time v, Stands history k time v) :
    ∃ time, FirstStanding history k time := by
  classical
  exact ⟨Nat.find h, Nat.find_spec h, fun other w hOther => Nat.find_min' h ⟨w, hOther⟩⟩

/-- A further write comes too late to be the first one. -/
theorem FirstStanding.concat_write (h : FirstStanding history k time) (l : κ) (w : ν) :
    FirstStanding (history ++ [.write l w]) k time := by
  obtain ⟨⟨v, hStands⟩, hFirst⟩ := h
  refine ⟨⟨v, stands_concat_write_iff.2 (.inl hStands)⟩, fun other u hOther => ?_⟩
  rcases stands_concat_write_iff.1 hOther with hBefore | ⟨rfl, -, -⟩
  · exact hFirst other u hBefore
  · exact Nat.le_of_lt hStands.lt_length

theorem FirstStanding.concat_erase (h : FirstStanding history k time) (hOther : k ≠ l) :
    FirstStanding (history ++ [.erase l]) k time := by
  obtain ⟨⟨v, hStands⟩, hFirst⟩ := h
  refine ⟨⟨v, stands_concat_erase_iff.2 ⟨hOther, hStands⟩⟩, fun other u hStands' => ?_⟩
  exact hFirst other u (stands_concat_erase_iff.1 hStands').2

/-- A write to a key without standing writes is the first one. -/
theorem firstStanding_concat_write (hAbsent : ∀ time v, ¬ Stands history l time v) (w : ν) :
    FirstStanding (history ++ [.write l w]) l history.length := by
  refine ⟨⟨w, stands_concat_write_iff.2 (.inr ⟨rfl, rfl, rfl⟩)⟩, fun other u hOther => ?_⟩
  rcases stands_concat_write_iff.1 hOther with hBefore | ⟨rfl, -, -⟩
  · exact absurd hBefore (hAbsent other u)
  · exact Nat.le_refl _

theorem Precedes.concat_write {k k' : κ} (h : Precedes history k k') (l : κ) (w : ν) :
    Precedes (history ++ [.write l w]) k k' := by
  obtain ⟨time, later, hFirst, hLater, hLt⟩ := h
  exact ⟨time, later, hFirst.concat_write l w, hLater.concat_write l w, hLt⟩

theorem Precedes.concat_erase {k k' : κ} (h : Precedes history k k') (hFirst : k ≠ l)
    (hSecond : k' ≠ l) : Precedes (history ++ [.erase l]) k k' := by
  obtain ⟨time, later, hTime, hLater, hLt⟩ := h
  exact ⟨time, later, hTime.concat_erase hFirst, hLater.concat_erase hSecond, hLt⟩

/-- A key with a standing write comes before one that is written for the first time. -/
theorem precedes_concat_write (hThere : ∃ time v, Stands history k time v)
    (hAbsent : ∀ time v, ¬ Stands history l time v) (w : ν) :
    Precedes (history ++ [.write l w]) k l := by
  obtain ⟨time, hFirst⟩ := exists_firstStanding hThere
  obtain ⟨v, hStands⟩ := hFirst.1
  exact ⟨time, history.length, hFirst.concat_write l w, firstStanding_concat_write hAbsent w,
    hStands.lt_length⟩

end Standing

/-! ## The map of a history -/

variable [DecidableEq κ]

/-- The map after a change. -/
def apply (m : OrderedMap κ ν) : Change κ ν → OrderedMap κ ν
  | .write key value => m.insert key value
  | .erase key => m.erase key

/-- The map that a history leaves of the map without entries. -/
def ofHistory (history : List (Change κ ν)) : OrderedMap κ ν :=
  history.foldl apply empty

theorem ofHistory_concat (history : List (Change κ ν)) (last : Change κ ν) :
    ofHistory (history ++ [last]) = (ofHistory history).apply last := by
  rw [ofHistory, List.foldl_append]
  rfl

/-- An erased key holds nothing, and the others hold what they held. -/
theorem get?_erase (m : OrderedMap κ ν) (k k' : κ) :
    (m.erase k).get? k' = if k' = k then none else m.get? k' := by
  have hRestrict : m.erase k = m.restrict fun key => decide (key ≠ k) := rfl
  rw [hRestrict, get?_restrict]
  by_cases hSame : k' = k <;> simp [hSame]

theorem keys_erase (m : OrderedMap κ ν) (k : κ) :
    (m.erase k).keys = m.keys.filter fun key => decide (key ≠ k) := by
  rw [keys, keys, erase, List.filter_map]
  rfl

/-- A key holds the value of the last of its standing writes. -/
theorem get?_ofHistory_eq_some_iff (history : List (Change κ ν)) (k : κ) (v : ν) :
    (ofHistory history).get? k = some v ↔ LastStanding history k v := by
  induction history using List.reverseRecOn generalizing v with
  | nil => exact ⟨fun h => (Option.some_ne_none v h.symm).elim,
      fun ⟨_, h, _⟩ => (not_stands_nil h).elim⟩
  | append_singleton history last ih =>
      rw [ofHistory_concat]
      cases last with
      | write l w =>
          rw [apply, get?_insert]
          by_cases hSame : k = l
          · subst hSame
            rw [if_pos rfl, Option.some.injEq, lastStanding_concat_write_self_iff]
          · rw [if_neg hSame, ih, lastStanding_concat_write_iff hSame]
      | erase l =>
          rw [apply, get?_erase, lastStanding_concat_erase_iff]
          by_cases hSame : k = l
          · rw [if_pos hSame]
            exact iff_of_false (Option.some_ne_none v).symm fun h => h.1 hSame
          · rw [if_neg hSame, ih]
            exact ⟨fun h => ⟨hSame, h⟩, And.right⟩

theorem mem_keys_insert (m : OrderedMap κ ν) (k l : κ) (w : ν) :
    k ∈ (m.insert l w).keys ↔ k ∈ m.keys ∨ k = l := by
  rw [keys_insert]
  by_cases hMem : l ∈ m.keys
  · rw [if_pos hMem]
    exact ⟨.inl, fun h => h.elim id fun hSame => hSame ▸ hMem⟩
  · simp [hMem]

/-- A key is there exactly if a write to it stands. -/
theorem mem_keys_ofHistory_iff (history : List (Change κ ν)) (k : κ) :
    k ∈ (ofHistory history).keys ↔ ∃ time v, Stands history k time v := by
  induction history using List.reverseRecOn with
  | nil => simp [ofHistory, not_stands_nil]
  | append_singleton history last ih =>
      rw [ofHistory_concat]
      cases last with
      | write l w =>
          rw [apply, mem_keys_insert, ih]
          simp only [stands_concat_write_iff, exists_or]
          simp [eq_comm]
      | erase l =>
          rw [apply, keys_erase, List.mem_filter, ih]
          simp [stands_concat_erase_iff, and_comm]

/-- The keys are in the order of the first of their standing writes. -/
theorem keys_ofHistory_pairwise (history : List (Change κ ν)) :
    (ofHistory history).keys.Pairwise (Precedes history) := by
  induction history using List.reverseRecOn with
  | nil => exact List.Pairwise.nil
  | append_singleton history last ih =>
      rw [ofHistory_concat]
      cases last with
      | write l w =>
          have hOld : (ofHistory history).keys.Pairwise (Precedes (history ++ [.write l w])) :=
            ih.imp fun h => h.concat_write l w
          rw [apply, keys_insert]
          by_cases hMem : l ∈ (ofHistory history).keys
          · rw [if_pos hMem]
            exact hOld
          · rw [if_neg hMem, List.pairwise_append]
            refine ⟨hOld, List.pairwise_singleton _ _, fun k hKey l' hNew => ?_⟩
            obtain rfl := List.mem_singleton.1 hNew
            rw [mem_keys_ofHistory_iff] at hMem hKey
            push Not at hMem
            exact precedes_concat_write hKey hMem w
      | erase l =>
          rw [apply, keys_erase, List.pairwise_filter]
          refine ih.imp fun {k k'} h hFirst hSecond => ?_
          exact h.concat_erase (of_decide_eq_true hFirst) (of_decide_eq_true hSecond)

/-! ## Observations -/

/-- What is taken out of a map is what a lookup finds. -/
theorem fst_pop (m : OrderedMap κ ν) (k : κ) : (m.pop k).1 = m.get? k := by
  rw [pop, get?]
  induction m.entries with
  | nil => rfl
  | cons entry rest ih =>
      rw [List.find?_cons, List.lookup_cons]
      by_cases hSame : entry.1 = k
      · simp [hSame]
      · have hBeq : (k == entry.1) = false := by simpa using fun h : k = entry.1 => hSame h.symm
        simp only [hSame, decide_false, hBeq]
        exact ih

theorem contains_eq_isSome (m : OrderedMap κ ν) (k : κ) : m.contains k = (m.get? k).isSome := by
  rw [contains, Bool.eq_iff_iff, decide_eq_true_iff, Option.isSome_iff_ne_none, ne_eq,
    get?_eq_none_iff, not_not]

/-- The values are what lookups of the keys find, in their order. -/
theorem map_some_values (m : OrderedMap κ ν) : m.values.map some = m.keys.map m.get? := by
  have h := congrArg (List.map Prod.snd) (map_some_entries m)
  simpa [values, Function.comp_def] using h

omit [DecidableEq κ] in
/-- A loop that updates a state visits the values in order. -/
theorem loop_eq_foldl {σ : Type} (m : OrderedMap κ ν) (start : σ) (visit : σ → ν → σ) :
    (Id.run do
      let mut state := start
      for v in m do
        state := visit state v
      return state) = m.values.foldl visit start := by
  change (Id.run do
    let mut state := start
    for v in m.values do
      state := visit state v
    return state) = m.values.foldl visit start
  simp

end SpringAudit.OrderedMap

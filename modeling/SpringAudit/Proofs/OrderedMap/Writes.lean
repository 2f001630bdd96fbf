import SpringAudit.OrderedMap

/-!
# Sequences of writes

This module follows a map through any sequence of writes.  Two views determine
the outcome: `get?_insertAll` says that a key holds the value of the last write
to it, and `keys_insertAll` says that the old keys stay in their places and the
new ones follow in the order of their first writes.

Erasing does not occur here; a key that is erased and written again moves to the
end, which no sequence of writes does.
-/

namespace SpringAudit.OrderedMap

variable {κ ν : Type} [DecidableEq κ]

/-! ## One write -/

/-- Overwriting looks a key up as before, unless it is the one that is written. -/
theorem lookup_map_overwrite (k : κ) (v : ν) (entries : List (κ × ν)) (k' : κ) :
    (entries.map (overwrite k v)).lookup k' =
      if k' = k then (entries.lookup k).map (fun _ => v) else entries.lookup k' := by
  induction entries with
  | nil => simp
  | cons entry rest ih =>
      obtain ⟨key, value⟩ := entry
      rw [List.map_cons]
      by_cases hWritten : key = k
      · subst hWritten
        have hEntry : overwrite key v (key, value) = (key, v) := by simp [overwrite]
        rw [hEntry, List.lookup_cons, ih]
        by_cases hSame : k' = key
        · simp [hSame]
        · have hBeq : (k' == key) = false := by simpa using hSame
          simp [hSame, List.lookup_cons, hBeq]
      · have hEntry : overwrite k v (key, value) = (key, value) := by
          simp [overwrite, hWritten]
        rw [hEntry, List.lookup_cons, ih]
        have hBeq : (k == key) = false := by simpa using fun h => hWritten h.symm
        by_cases hSame : k' = k
        · subst hSame
          simp [List.lookup_cons, hBeq]
        · simp [hSame, List.lookup_cons]

theorem get?_eq_none_iff (m : OrderedMap κ ν) (k : κ) :
    m.get? k = none ↔ k ∉ m.keys := by
  rw [get?, List.lookup_eq_none_iff, keys, List.mem_map]
  constructor
  · rintro hNone ⟨entry, hEntry, rfl⟩
    simpa using hNone entry hEntry
  · intro hAbsent entry hEntry
    have hNe : ¬ k = entry.1 := fun h => hAbsent ⟨entry, hEntry, h.symm⟩
    simpa using hNe

/-- A write is seen at its own key and nowhere else. -/
theorem get?_insert (m : OrderedMap κ ν) (k : κ) (v : ν) (k' : κ) :
    (m.insert k v).get? k' = if k' = k then some v else m.get? k' := by
  by_cases hMem : k ∈ m.keys
  · have hSome : m.entries.lookup k ≠ none := fun h => (get?_eq_none_iff m k).1 h hMem
    obtain ⟨old, hOld⟩ := Option.ne_none_iff_exists'.1 hSome
    simp only [get?, insert, hMem, dif_pos]
    rw [lookup_map_overwrite, hOld]
    rfl
  · have hNone : m.entries.lookup k = none := (get?_eq_none_iff m k).2 hMem
    simp only [get?, insert, hMem, dif_neg, not_false_eq_true]
    rw [List.lookup_append]
    by_cases hSame : k' = k
    · subst hSame
      simp [hNone]
    · have hBeq : (k' == k) = false := by simpa using hSame
      simp [hSame, List.lookup_cons, hBeq]

/-! ## Any number of writes -/

@[simp] theorem insertAll_nil (m : OrderedMap κ ν) : m.insertAll [] = m := rfl

@[simp] theorem insertAll_cons (m : OrderedMap κ ν) (entry : κ × ν) (rest : List (κ × ν)) :
    m.insertAll (entry :: rest) = (m.insert entry.1 entry.2).insertAll rest := rfl

@[simp] theorem get?_empty (k : κ) : (empty : OrderedMap κ ν).get? k = none := rfl

omit [DecidableEq κ] in
@[simp] theorem keys_empty : (empty : OrderedMap κ ν).keys = [] := rfl

/-- The last value that a list of entries has for a key. -/
def lastValue? (entries : List (κ × ν)) (k : κ) : Option ν :=
  (entries.filter fun entry => decide (entry.1 = k)).getLast?.map Prod.snd

/-- Of several writes to a key the last one counts; a key without any keeps its value. -/
theorem get?_insertAll (m : OrderedMap κ ν) (entries : List (κ × ν)) (k : κ) :
    (m.insertAll entries).get? k = (lastValue? entries k).or (m.get? k) := by
  -- The map is generalized, because each write changes what the later ones start from.
  induction entries generalizing m with
  | nil => simp [lastValue?]
  | cons entry rest ih =>
      rw [insertAll_cons, ih, get?_insert]
      by_cases hSame : k = entry.1
      · subst hSame
        cases hLast : (rest.filter fun later => decide (later.1 = entry.1)).getLast? with
        | none => simp [lastValue?, List.getLast?_cons, hLast]
        | some later => simp [lastValue?, List.getLast?_cons, hLast]
      · have hOther : ¬ entry.1 = k := fun h => hSame h.symm
        simp [lastValue?, hSame, hOther]

/-- The keys of a list that the map does not have, each at its first place in the list. -/
def newKeys (m : OrderedMap κ ν) (keys : List κ) : List κ :=
  (keys.filter fun k => decide (k ∉ m.keys)).eraseDups

/-- Writing keeps the old keys in front and adds the new ones, each at its first write. -/
theorem keys_insertAll (m : OrderedMap κ ν) (entries : List (κ × ν)) :
    (m.insertAll entries).keys = m.keys ++ m.newKeys (entries.map Prod.fst) := by
  unfold newKeys
  induction entries generalizing m with
  | nil => simp
  | cons entry rest ih =>
      rw [insertAll_cons, ih, keys_insert, List.map_cons]
      by_cases hMem : entry.1 ∈ m.keys
      · simp [hMem]
      · have hFilter :
            ((rest.map Prod.fst).filter fun k => decide (k ∉ m.keys ++ [entry.1])) =
              ((rest.map Prod.fst).filter fun k => decide (k ∉ m.keys)).filter
                fun k => !k == entry.1 := by
          rw [List.filter_filter]
          apply List.filter_congr
          intro k _
          by_cases hOld : k ∈ m.keys <;> by_cases hSame : k = entry.1 <;> simp [hOld, hSame]
        rw [if_neg hMem, hFilter, List.filter_cons, if_pos (by simpa using hMem),
          List.eraseDups_cons, List.append_assoc]
        rfl

/-- The value of the last entry with a key, if no later entry has it. -/
theorem lastValue?_append_cons {front back : List (κ × ν)} {k : κ} {v : ν}
    (hLast : k ∉ back.map Prod.fst) : lastValue? (front ++ (k, v) :: back) k = some v := by
  have hNone : (back.filter fun entry => decide (entry.1 = k)) = [] := by
    rw [List.filter_eq_nil_iff]
    intro entry hMem hSame
    exact hLast (List.mem_map.2 ⟨entry, hMem, of_decide_eq_true hSame⟩)
  have hHere : decide ((k, v).1 = k) = true := decide_eq_true rfl
  rw [lastValue?, List.filter_append, List.filter_cons, if_pos hHere, hNone,
    List.getLast?_concat]
  rfl

/-- The last value of each key is what a map made of a list holds. -/
theorem get?_ofList (entries : List (κ × ν)) (k : κ) :
    (ofList entries).get? k = lastValue? entries k := by
  rw [ofList, get?_insertAll]
  simp

end SpringAudit.OrderedMap

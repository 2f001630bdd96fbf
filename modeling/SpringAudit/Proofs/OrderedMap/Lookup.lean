import SpringAudit.Proofs.OrderedMap.Writes
import SpringAudit.Proofs.Traversal

/-!
# What lookups determine

Keys are distinct, so a lookup finds an entry exactly if the map has it.  Two maps
with the same lookups therefore have the same entries, if not in the same order
(`entries_perm_of_get?`), and with the keys in the same order they are the same map
(`ext_get?`).

Two consequences are about writing: repeating a sequence of writes changes nothing
more (`insertAll_insertAll_self`), and leaving keys out does not touch the lookups
of the others (`get?_restrict`).
-/

namespace SpringAudit.OrderedMap

variable {κ ν : Type} [DecidableEq κ]

/-- A key holds a value exactly if this is an entry of the map. -/
theorem get?_eq_some_iff {m : OrderedMap κ ν} {k : κ} {v : ν} :
    m.get? k = some v ↔ (k, v) ∈ m.entries :=
  lookup_eq_some_iff_mem m.nodup_keys

omit [DecidableEq κ] in
theorem nodup_entries (m : OrderedMap κ ν) : m.entries.Nodup :=
  List.Nodup.of_map Prod.fst m.nodup_keys

/-! ## Maps with the same lookups -/

/-- Maps with the same lookups have the same entries in some order. -/
theorem entries_perm_of_get? {m m' : OrderedMap κ ν} (h : ∀ k, m.get? k = m'.get? k) :
    m.entries.Perm m'.entries := by
  rw [List.perm_ext_iff_of_nodup m.nodup_entries m'.nodup_entries]
  rintro ⟨k, v⟩
  rw [← get?_eq_some_iff, ← get?_eq_some_iff, h]

/-- The order of the entries does not matter for lookups. -/
theorem get?_eq_of_perm {m m' : OrderedMap κ ν} (h : m.entries.Perm m'.entries) (k : κ) :
    m.get? k = m'.get? k := by
  apply Option.ext
  intro v
  rw [get?_eq_some_iff, get?_eq_some_iff, h.mem_iff]

theorem values_perm_of_get? {m m' : OrderedMap κ ν} (h : ∀ k, m.get? k = m'.get? k) :
    m.values.Perm m'.values :=
  (entries_perm_of_get? h).map Prod.snd

/-- The entries are read off the keys and the lookups. -/
theorem map_some_entries (m : OrderedMap κ ν) :
    m.entries.map (fun entry => (entry.1, some entry.2)) = m.keys.map fun k => (k, m.get? k) := by
  rw [keys, List.map_map]
  refine List.map_congr_left fun entry hEntry => ?_
  have hFound : m.get? entry.1 = some entry.2 := get?_eq_some_iff.2 hEntry
  simp [hFound]

/-- A map is determined by its keys in their order and its lookups. -/
theorem ext_get? {m m' : OrderedMap κ ν} (hKeys : m.keys = m'.keys)
    (hGet : ∀ k, m.get? k = m'.get? k) : m = m' := by
  have hEntries : m.entries = m'.entries := by
    -- The values are wrapped because a lookup gives an option.
    have hInjective : Function.Injective fun entry : κ × ν => (entry.1, some entry.2) := by
      rintro ⟨k, v⟩ ⟨k', v'⟩ h
      simpa using h
    apply List.map_injective_iff.2 hInjective
    rw [map_some_entries, map_some_entries, hKeys]
    simp only [hGet]
  cases m
  cases m'
  congr

/-! ## Writing twice -/

/-- The keys after writing are the old ones and those that are written. -/
theorem mem_keys_insertAll {m : OrderedMap κ ν} {entries : List (κ × ν)} {k : κ} :
    k ∈ (m.insertAll entries).keys ↔ k ∈ m.keys ∨ k ∈ entries.map Prod.fst := by
  rw [keys_insertAll, newKeys, List.mem_append, List.mem_eraseDups, List.mem_filter]
  by_cases hOld : k ∈ m.keys <;> simp [hOld]

/-- Writing to keys that are all there adds no key. -/
theorem newKeys_eq_nil {m : OrderedMap κ ν} {keys : List κ} (h : ∀ k ∈ keys, k ∈ m.keys) :
    m.newKeys keys = [] := by
  have hNone : (keys.filter fun k => decide (k ∉ m.keys)) = [] := by
    rw [List.filter_eq_nil_iff]
    intro k hk
    simpa using h k hk
  rw [newKeys, hNone, List.eraseDups_nil]

/-- Repeating a sequence of writes changes nothing more.  On the way the second time a key
may go back to an earlier value, but the last write to it is the same. -/
theorem insertAll_insertAll_self (m : OrderedMap κ ν) (entries : List (κ × ν)) :
    (m.insertAll entries).insertAll entries = m.insertAll entries := by
  refine ext_get? ?_ fun k => ?_
  · -- The second time every key is there already and keeps its place.
    have hWritten : ∀ k ∈ entries.map Prod.fst, k ∈ (m.insertAll entries).keys :=
      fun k hk => mem_keys_insertAll.2 (.inr hk)
    rw [keys_insertAll (m.insertAll entries), newKeys_eq_nil hWritten, List.append_nil]
  · rw [get?_insertAll, get?_insertAll]
    cases lastValue? entries k <;> rfl

/-! ## Leaving keys out -/

/-- The map with only the entries whose keys pass a test. -/
def restrict (m : OrderedMap κ ν) (keep : κ → Bool) : OrderedMap κ ν :=
  ⟨m.entries.filter fun entry => keep entry.1,
    (List.filter_sublist.map Prod.fst).nodup m.nodup_keys⟩

theorem get?_restrict (m : OrderedMap κ ν) (keep : κ → Bool) (k : κ) :
    (m.restrict keep).get? k = if keep k then m.get? k else none := by
  apply Option.ext
  intro v
  rw [get?_eq_some_iff, restrict, List.mem_filter]
  by_cases hKeep : keep k <;> simp [hKeep, get?_eq_some_iff]

end SpringAudit.OrderedMap

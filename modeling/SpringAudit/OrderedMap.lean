/-!
# Maps that keep the order of insertion

A map is a list of entries with distinct keys.  Writing to a key that is there
keeps its place; a new key goes to the end, also if it was there before and has
been removed.
-/

namespace SpringAudit

/-- A finite map whose keys are in the order of their insertion. -/
structure OrderedMap (κ ν : Type) where
  entries : List (κ × ν)
  nodup_keys : (entries.map Prod.fst).Nodup

namespace OrderedMap

variable {κ ν : Type} [DecidableEq κ]

/-- The map without entries. -/
def empty : OrderedMap κ ν := ⟨[], List.nodup_nil⟩

/-- The keys in order. -/
def keys (m : OrderedMap κ ν) : List κ :=
  m.entries.map Prod.fst

/-- The values in the order of their keys. -/
def values (m : OrderedMap κ ν) : List ν :=
  m.entries.map Prod.snd

/-- The number of entries. -/
def size (m : OrderedMap κ ν) : Nat :=
  m.entries.length

/-- The value at a key. -/
def get? (m : OrderedMap κ ν) (k : κ) : Option ν :=
  m.entries.lookup k

/-- Whether there is a value at a key. -/
def contains (m : OrderedMap κ ν) (k : κ) : Bool :=
  decide (k ∈ m.keys)

/-- An entry with its value replaced if it has the given key. -/
def overwrite (k : κ) (v : ν) (entry : κ × ν) : κ × ν :=
  if entry.1 = k then (k, v) else entry

theorem fst_overwrite (k : κ) (v : ν) (entry : κ × ν) :
    (overwrite k v entry).1 = entry.1 := by
  unfold overwrite
  split
  · next h => exact h.symm
  · rfl

theorem map_fst_overwrite (k : κ) (v : ν) (entries : List (κ × ν)) :
    (entries.map (overwrite k v)).map Prod.fst = entries.map Prod.fst := by
  simp [Function.comp_def, fst_overwrite]

/-- The map with a value written to a key. -/
def insert (m : OrderedMap κ ν) (k : κ) (v : ν) : OrderedMap κ ν :=
  if h : k ∈ m.keys then
    ⟨m.entries.map (overwrite k v), by
      rw [map_fst_overwrite]
      exact m.nodup_keys⟩
  else
    ⟨m.entries ++ [(k, v)], by
      rw [List.map_append, List.nodup_append]
      refine ⟨m.nodup_keys, by simp, ?_⟩
      intro a ha b hb hab
      simp only [List.map_cons, List.map_nil, List.mem_singleton] at hb
      exact h (hb ▸ hab ▸ ha)⟩

/-- The map without a key. -/
def erase (m : OrderedMap κ ν) (k : κ) : OrderedMap κ ν :=
  ⟨m.entries.filter fun entry => decide (entry.1 ≠ k),
    (List.filter_sublist.map Prod.fst).nodup m.nodup_keys⟩

/-- The value at a key, if there is one, and the map without the key. -/
def pop (m : OrderedMap κ ν) (k : κ) : Option ν × OrderedMap κ ν :=
  ((m.entries.find? fun entry => decide (entry.1 = k)).map Prod.snd, m.erase k)

/-- A loop over a map visits its values in order. -/
instance {μ : Type → Type} [Monad μ] : ForIn μ (OrderedMap κ ν) ν where
  forIn m start body := forIn m.values start body

/-- The map with several values written one after another. -/
def insertAll (m : OrderedMap κ ν) (entries : List (κ × ν)) : OrderedMap κ ν :=
  entries.foldl (fun found entry => found.insert entry.1 entry.2) m

/-- The map of a list; of several values for a key the last one stays, in the first place. -/
def ofList (entries : List (κ × ν)) : OrderedMap κ ν :=
  empty.insertAll entries

theorem keys_insert (m : OrderedMap κ ν) (k : κ) (v : ν) :
    (m.insert k v).keys = if k ∈ m.keys then m.keys else m.keys ++ [k] := by
  unfold insert
  split
  · next h => simp only [keys, map_fst_overwrite]
  · next h => simp [keys]

end OrderedMap

end SpringAudit

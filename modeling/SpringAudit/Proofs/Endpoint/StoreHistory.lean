import SpringAudit.Endpoint.Extraction
import SpringAudit.Proofs.OrderedMap.History

/-!
# The store over its history

Endpoints are written to a store under any key or under their own, and keys are taken out of
it, in any order and any number of times.  What every observation of the store gives is told
from the history of these operations alone (`after_follows_history`): the times of the writes
that no removal has undone say what each key holds and how the keys are ordered.
-/

namespace SpringAudit

open OrderedMap (Change LastStanding Stands Precedes)

/-- An operation on a store. -/
inductive StoreOperation where
  | insert (key : Text) (e : Endpoint)
  | add (e : Endpoint)
  | remove (key : Text)

/-- What an operation does to the entries; an endpoint is added under its own key. -/
def StoreOperation.change : StoreOperation → Change Text Endpoint
  | .insert key e => .write key e
  | .add e => .write e.key e
  | .remove key => .erase key

namespace EndpointStore

/-- The store after an operation. -/
def perform (store : EndpointStore) : StoreOperation → EndpointStore
  | .insert key e => store.insert key e
  | .add e => store.add e
  | .remove key => (store.pop key).2

/-- The store after a history of operations, the oldest first, on the empty one. -/
def after (history : List StoreOperation) : EndpointStore :=
  history.foldl perform .empty

theorem perform_eq_apply (store : EndpointStore) (operation : StoreOperation) :
    store.perform operation = store.apply operation.change := by
  cases operation <;> rfl

theorem after_eq_ofHistory (history : List StoreOperation) :
    after history = .ofHistory (history.map StoreOperation.change) := by
  rw [after, OrderedMap.ofHistory, List.foldl_map]
  congr 1
  funext store operation
  exact perform_eq_apply store operation

theorem after_concat (history : List StoreOperation) (last : StoreOperation) :
    after (history ++ [last]) = (after history).perform last := by
  rw [after, List.foldl_append]
  rfl

/-- Every observation of a store is the one that a history of changes tells.

A key holds the endpoint of its last standing write, and nothing if no write stands.  The keys
are those that hold an endpoint, each once and in the order of their first standing writes; the
other observations agree with them. -/
structure Follows (store : EndpointStore) (history : List (Change Text Endpoint)) : Prop where
  found : ∀ k e, store.get? k = some e ↔ LastStanding history k e
  absent : ∀ k, store.get? k = none ↔ ∀ time e, ¬ Stands history k time e
  contained : ∀ k, store.contains k = (store.get? k).isSome
  size : store.size = store.keys.length
  mem_keys : ∀ k, k ∈ store.keys ↔ store.contains k = true
  nodup_keys : store.keys.Nodup
  ordered : store.keys.Pairwise (Precedes history)
  listed : store.values.map some = store.keys.map store.get?
  visited : ∀ {σ : Type} (start : σ) (visit : σ → Endpoint → σ),
    (Id.run do
      let mut state := start
      for e in store do
        state := visit state e
      return state) = store.values.foldl visit start

/-- A store follows its history, and taking a key out gives what a lookup would have given just
before it. -/
theorem after_follows_history (history : List StoreOperation) :
    (after history).Follows (history.map StoreOperation.change) ∧
      ∀ k, (after history).pop k = ((after history).get? k, after (history ++ [.remove k])) := by
  constructor
  · rw [after_eq_ofHistory]
    constructor
    case found => exact OrderedMap.get?_ofHistory_eq_some_iff _
    case absent =>
      intro k
      rw [OrderedMap.get?_eq_none_iff, OrderedMap.mem_keys_ofHistory_iff]
      push Not
      rfl
    case contained => exact OrderedMap.contains_eq_isSome _
    case size => rw [OrderedMap.size, OrderedMap.keys, List.length_map]
    case mem_keys => exact fun k => by simp [OrderedMap.contains]
    case nodup_keys => exact OrderedMap.nodup_keys _
    case ordered => exact OrderedMap.keys_ofHistory_pairwise _
    case listed => exact OrderedMap.map_some_values _
    case visited => exact OrderedMap.loop_eq_foldl _
  · intro k
    rw [← OrderedMap.fst_pop, after_concat]
    rfl

end EndpointStore

end SpringAudit

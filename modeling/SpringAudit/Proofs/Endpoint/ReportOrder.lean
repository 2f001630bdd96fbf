import SpringAudit.Proofs.Endpoint.SharedStore
import SpringAudit.Proofs.OrderedMap.History

/-!
# The order of a report is canonical

A store is built up by adding endpoints, by removing keys and by runs over models.  Whatever
is done, every endpoint stands under its own key (`Reached.hasOwnKeys`), and so no two of them
have both the URL and the HTTP method in common.

The sorted list of a store therefore increases strictly and depends on nothing but what the keys
hold, not on the order in which they came (`sortEndpoints_canonical`).  The order by code points
is stated by the order of lists of numbers, apart from the comparison that the sorting uses.
-/

namespace SpringAudit

/-! ## The order by code points -/

/-- The numbers of the code points. -/
def Text.codes (t : Text) : List Nat :=
  t.map CodePoint.toNat

theorem Text.codes_lt_iff {s t : Text} : s.codes < t.codes ↔ ble s t = true ∧ s ≠ t := by
  induction s generalizing t with
  | nil => cases t <;> simp [codes, ble]
  | cons a s ih =>
      cases t with
      | nil => simp [codes, ble]
      | cons b t =>
          have hSame : a.toNat = b.toNat ↔ a = b := ⟨CodePoint.ext_toNat, congrArg _⟩
          have hCons : codes (a :: s) < codes (b :: t) ↔
              a.toNat < b.toNat ∨ a.toNat = b.toNat ∧ codes s < codes t :=
            List.cons_lt_cons_iff
          rw [hCons, ble_cons_iff, ih, hSame]
          by_cases hHere : a = b
          · simp [hHere]
          · simp [hHere]

namespace Endpoint

/-- The URL comes first by code points, or the URLs are the same and the HTTP method does. -/
def StrictlyBefore (a b : Endpoint) : Prop :=
  a.url.codes < b.url.codes ∨ a.url = b.url ∧ a.httpMethod.codes < b.httpMethod.codes

theorem strictlyBefore_of_key_ne {a b : Endpoint} (hBefore : a.reportedBefore b = true)
    (hKey : a.key ≠ b.key) : a.StrictlyBefore b := by
  rcases reportedBefore_iff.1 hBefore with ⟨hUrl, hLe⟩ | ⟨hUrl, hLe⟩
  · exact .inl (Text.codes_lt_iff.2 ⟨hLe, hUrl⟩)
  · refine .inr ⟨hUrl, Text.codes_lt_iff.2 ⟨hLe, fun hMethod => hKey ?_⟩⟩
    rw [key, key, hUrl, hMethod]

end Endpoint

/-! ## Stores that are built up -/

namespace EndpointStore

/-- A store that is the empty one or comes from such a store by adding an endpoint, by removing
a key or by a run over a model. -/
inductive Reached : EndpointStore → Prop where
  | empty : Reached .empty
  | add {store : EndpointStore} (h : Reached store) (e : Endpoint) : Reached (store.add e)
  | remove {store : EndpointStore} (h : Reached store) (k : Text) : Reached (store.pop k).2
  | run {store : EndpointStore} (h : Reached store) (model : SourceModel)
      (diagnostics : List Diagnostic) : Reached (extract model store diagnostics).store

theorem HasOwnKeys.pop {store : EndpointStore} (h : store.HasOwnKeys) (k : Text) :
    HasOwnKeys (store.pop k).2 := by
  intro k' e hFound
  rw [OrderedMap.pop, OrderedMap.get?_erase] at hFound
  by_cases hSame : k' = k
  · rw [if_pos hSame] at hFound
    cases hFound
  · rw [if_neg hSame] at hFound
    exact h k' e hFound

/-- However a store is built up, each endpoint stands under its own key. -/
theorem Reached.hasOwnKeys {store : EndpointStore} (h : store.Reached) : store.HasOwnKeys := by
  induction h with
  | empty => exact hasOwnKeys_empty
  | add _ e ih => exact ih.add e
  | remove _ k ih => exact ih.pop k
  | run _ model diagnostics ih =>
      rw [extract_eq]
      exact ih.addAll model.emissions

/-- The keys are those of the endpoints. -/
theorem HasOwnKeys.map_key_values {store : EndpointStore} (h : store.HasOwnKeys) :
    store.values.map Endpoint.key = store.keys := by
  rw [OrderedMap.values, OrderedMap.keys, List.map_map]
  refine List.map_congr_left fun entry hEntry => ?_
  exact h entry.1 entry.2 (OrderedMap.get?_eq_some_iff.2 hEntry)

end EndpointStore

/-! ## The sorted list -/

/-- Sorted endpoints with different keys increase strictly. -/
theorem sortEndpoints_pairwise_strictly {endpoints : List Endpoint}
    (hKeys : (endpoints.map Endpoint.key).Nodup) :
    (sortEndpoints endpoints).Pairwise Endpoint.StrictlyBefore := by
  have hSortedKeys : ((sortEndpoints endpoints).map Endpoint.key).Nodup :=
    (((sortEndpoints_perm endpoints).map Endpoint.key).nodup_iff).2 hKeys
  rw [List.nodup_iff_pairwise_ne, List.pairwise_map] at hSortedKeys
  exact (sortEndpoints_pairwise endpoints).imp₂
    (fun _ _ hBefore hKey => Endpoint.strictlyBefore_of_key_ne hBefore hKey) hSortedKeys

/-- A list in the order of reports is sorted already. -/
theorem sortEndpoints_of_pairwise {endpoints : List Endpoint}
    (h : endpoints.Pairwise fun a b => a.reportedBefore b = true) :
    sortEndpoints endpoints = endpoints :=
  List.mergeSort_of_pairwise h

/-- Leaving out the guarded endpoints before or after sorting comes to the same. -/
theorem unguardedEndpoints_sortEndpoints {l : List Endpoint}
    (hUnique : ∀ a ∈ l, ∀ b ∈ l, a.url = b.url → a.httpMethod = b.httpMethod → a = b) :
    unguardedEndpoints (sortEndpoints l) = sortEndpoints (unguardedEndpoints l) := by
  have hSorted : (unguardedEndpoints (sortEndpoints l)).Pairwise
      fun a b => a.reportedBefore b = true :=
    (sortEndpoints_pairwise l).filter _
  have hPerm : (unguardedEndpoints (sortEndpoints l)).Perm (unguardedEndpoints l) :=
    (sortEndpoints_perm l).filter _
  rw [← sortEndpoints_of_pairwise hSorted]
  refine sortEndpoints_eq_of_perm hPerm fun a hA b hB => ?_
  exact hUnique a (List.mem_of_mem_filter (hPerm.mem_iff.1 hA)) b
    (List.mem_of_mem_filter (hPerm.mem_iff.1 hB))

/-- The sorted list of a store is canonical: whatever store holds the same endpoint under each
key, in whatever order its keys came, has the same sorted list.  This has the endpoints of the
store, each as often, and increases strictly; and the guarded endpoints may be left out before
or after sorting. -/
theorem sortEndpoints_canonical {store other : EndpointStore} (hReached : store.Reached)
    (hSame : ∀ k, store.get? k = other.get? k) :
    sortEndpoints store.values = sortEndpoints other.values ∧
      (sortEndpoints store.values).Perm store.values ∧
      (sortEndpoints store.values).Pairwise Endpoint.StrictlyBefore ∧
      unguardedEndpoints (sortEndpoints store.values) =
        sortEndpoints (unguardedEndpoints store.values) := by
  have hOwn := hReached.hasOwnKeys
  have hUnique : ∀ a ∈ store.values, ∀ b ∈ store.values, a.url = b.url →
      a.httpMethod = b.httpMethod → a = b := fun a hA b hB => hOwn.eq_of_mem_values hA hB
  have hKeys : (store.values.map Endpoint.key).Nodup := by
    rw [hOwn.map_key_values]
    exact store.nodup_keys
  exact ⟨sortEndpoints_eq_of_perm (OrderedMap.values_perm_of_get? hSame) hUnique,
    sortEndpoints_perm store.values, sortEndpoints_pairwise_strictly hKeys,
    unguardedEndpoints_sortEndpoints hUnique⟩

/-- An endpoint of the shop, guarded by an expression unless that is empty. -/
def shopEndpoint (url preAuthorization : Text) : Endpoint :=
  ⟨url, "GET", ⟨preAuthorization, [], [], []⟩⟩

/-- A store with the endpoints of the shop in the other order.  One of them was guarded at
first, and a third one has been removed again. -/
def shopStore : EndpointStore :=
  ((((EndpointStore.add .empty (shopEndpoint "/sales/all" [])).add
    (shopEndpoint "/orders/all" "staff")).add (shopEndpoint "/help" [])).add
    (shopEndpoint "/orders/all" [])).pop "/help|GET" |>.2

/-- A run over the shop reports the same as the store that was built up by hand. -/
theorem shopStore_sorted :
    shopStore.Reached ∧ shopStore.keys ≠ (extract shopModel .empty []).store.keys ∧
      (∀ k, shopStore.get? k = (extract shopModel .empty []).store.get? k) ∧
      sortEndpoints shopStore.values = sortEndpoints (extract shopModel .empty []).store.values ∧
      (sortEndpoints shopStore.values).Pairwise Endpoint.StrictlyBefore := by
  have hReached : shopStore.Reached :=
    ((((EndpointStore.Reached.empty.add _).add _).add _).add _).remove _
  have hPerm : shopStore.entries.Perm (extract shopModel .empty []).store.entries := by decide
  have hSame := OrderedMap.get?_eq_of_perm hPerm
  obtain ⟨hSorted, -, hStrict, -⟩ := sortEndpoints_canonical hReached hSame
  exact ⟨hReached, by decide, hSame, hSorted, hStrict⟩

end SpringAudit

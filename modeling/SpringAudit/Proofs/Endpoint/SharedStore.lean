import SpringAudit.Proofs.Endpoint.Accounting
import SpringAudit.Proofs.Endpoint.Order
import SpringAudit.Proofs.OrderedMap.Lookup

/-!
# Several runs on one store

A run may start from the store and the diagnostics of another one.  Runs over
batches of classes then add up to a single run over all of them (`extractBatches_eq`),
and running over the same model again leaves the store as it is (`extract_rerun_keeps_store`).

The order of the classes may be changed as well, provided that no route is declared
by two controllers (`extractBatches_reordered`).  Within a controller the order stays:
its later emissions overwrite its earlier ones.  What may change with the order of the
classes is the order of the keys in the store, and therefore the comparison is by
lookups and by the sorted list.
-/

namespace SpringAudit

/-! ## Running again -/

/-- Writing the same endpoints again changes nothing. -/
theorem EndpointStore.addAll_addAll_self (store : EndpointStore) (endpoints : List Endpoint) :
    (store.addAll endpoints).addAll endpoints = store.addAll endpoints := by
  rw [addAll_eq_insertAll, addAll_eq_insertAll, OrderedMap.insertAll_insertAll_self]

/-- A second run over the same model, on the store and the diagnostics that the first one has
left, keeps every key in its place and every endpoint, counts the same, and reports the same
diagnostics once more. -/
theorem extract_rerun_keeps_store (model : SourceModel) (store : EndpointStore)
    (diagnostics : List Diagnostic) :
    ∃ added,
      (extract model store diagnostics).diagnostics = diagnostics ++ added ∧
        extract model (extract model store diagnostics).store
            (extract model store diagnostics).diagnostics =
          { extract model store diagnostics with
            diagnostics := diagnostics ++ added ++ added } := by
  refine ⟨model.problems, ?_, ?_⟩
  · rw [extract_eq]
  · simp only [extract_eq, EndpointStore.addAll_addAll_self]

/-! ## Running over batches -/

/-- Goes on with a run over a further batch of classes, on the store and the diagnostics that
are there.  Its counts are added to those from before. -/
def Extraction.continueWith (before : Extraction) (batch : SourceModel) : Extraction :=
  let next := extract batch before.store before.diagnostics
  { next with
    controllers := before.controllers + next.controllers
    handlerMethods := before.handlerMethods + next.handlerMethods }

/-- Runs over batches of classes one after another, starting from a store and diagnostics. -/
def extractBatches (batches : List SourceModel) (store : EndpointStore)
    (diagnostics : List Diagnostic) : Extraction :=
  batches.foldl Extraction.continueWith ⟨store, diagnostics, 0, 0⟩

/-- A batch that follows a run extends the model of the run. -/
theorem Extraction.continueWith_extract (model batch : SourceModel) (store : EndpointStore)
    (diagnostics : List Diagnostic) :
    (extract model store diagnostics).continueWith batch =
      extract (model ++ batch) store diagnostics := by
  simp [Extraction.continueWith, extract_eq, SourceModel.emissions, SourceModel.problems,
    SourceModel.countedHandlers, SourceModel.controllers, EndpointStore.addAll_append]

/-- Running batch by batch is running over all batches at once. -/
theorem extractBatches_eq (batches : List SourceModel) (store : EndpointStore)
    (diagnostics : List Diagnostic) :
    extractBatches batches store diagnostics = extract batches.flatten store diagnostics := by
  -- The batches are taken up one by one into the model of the run so far.
  suffices hFrom : ∀ model, batches.foldl Extraction.continueWith (extract model store diagnostics) =
      extract (model ++ batches.flatten) store diagnostics from hFrom []
  induction batches with
  | nil => simp
  | cons batch rest ih =>
      intro model
      rw [List.foldl_cons, Extraction.continueWith_extract, ih, List.flatten_cons,
        List.append_assoc]

/-! ## Reordering the classes -/

/-- The order of the parts of a list does not matter if at most one of them has elements. -/
theorem flatMap_eq_of_perm {α β : Type} {f : α → List β} {l l' : List α} (hPerm : l.Perm l')
    (hOne : l.Pairwise fun a b => f a = [] ∨ f b = []) : l.flatMap f = l'.flatMap f := by
  induction hPerm with
  | nil => rfl
  | cons a _ ih =>
      rw [List.flatMap_cons, List.flatMap_cons, ih (List.pairwise_cons.1 hOne).2]
  | swap a b rest =>
      -- Neighbours can change places because one of them has no elements.
      rcases (List.pairwise_cons.1 hOne).1 a List.mem_cons_self with hNone | hNone
      · simp [hNone]
      · simp [hNone]
  | trans hFirst _ ihFirst ihSecond =>
      have hOne' := hOne.perm hFirst fun h => h.symm
      exact (ihFirst hOne).trans (ihSecond hOne')

namespace SourceModel

/-- No route is declared by two controllers: a key that one controller of the list writes is
written by no other one, not even by a second occurrence of the same class. -/
def DeclaresRoutesOnce (model : SourceModel) : Prop :=
  model.controllers.Pairwise fun c d => ∀ e ∈ c.emissions, ∀ f ∈ d.emissions, e.key ≠ f.key

instance (model : SourceModel) : Decidable model.DeclaresRoutesOnce :=
  inferInstanceAs (Decidable (List.Pairwise _ _))

variable {model model' : SourceModel}

theorem controllers_perm (hPerm : model.Perm model') :
    model.controllers.Perm model'.controllers :=
  hPerm.filter AnnotatedClass.isController

/-- Of each key the emissions stay the same, and in the same order. -/
theorem filter_emissions_eq_of_perm (hPerm : model.Perm model') (hOnce : model.DeclaresRoutesOnce)
    (k : Text) :
    (model.emissions.filter fun e => decide (e.key = k)) =
      model'.emissions.filter fun e => decide (e.key = k) := by
  rw [emissions, emissions, List.filter_flatMap, List.filter_flatMap]
  refine flatMap_eq_of_perm (controllers_perm hPerm) (hOnce.imp fun {c d} hApart => ?_)
  -- If both had an emission with the key, their keys would be the same.
  by_contra hBoth
  rw [not_or, List.filter_eq_nil_iff, List.filter_eq_nil_iff] at hBoth
  push Not at hBoth
  obtain ⟨⟨e, hE, hKeyE⟩, f, hF, hKeyF⟩ := hBoth
  exact hApart e hE f hF ((of_decide_eq_true hKeyE).trans (of_decide_eq_true hKeyF).symm)

end SourceModel

namespace EndpointStore

/-- Whether every endpoint stands under its own key. -/
def HasOwnKeys (store : EndpointStore) : Prop :=
  ∀ k e, store.get? k = some e → e.key = k

theorem hasOwnKeys_empty : HasOwnKeys .empty := by
  intro k e hFound
  rw [OrderedMap.get?_empty] at hFound
  cases hFound

theorem HasOwnKeys.add {store : EndpointStore} (h : store.HasOwnKeys) (e : Endpoint) :
    (store.add e).HasOwnKeys := by
  intro k f hFound
  rw [EndpointStore.add, OrderedMap.get?_insert] at hFound
  by_cases hKey : k = e.key
  · rw [if_pos hKey, Option.some.injEq] at hFound
    rw [← hFound, hKey]
  · rw [if_neg hKey] at hFound
    exact h k f hFound

theorem HasOwnKeys.addAll {store : EndpointStore} (h : store.HasOwnKeys)
    (endpoints : List Endpoint) : (store.addAll endpoints).HasOwnKeys := by
  induction endpoints generalizing store with
  | nil => exact h
  | cons e rest ih => exact ih (h.add e)

/-- Endpoints under their own keys are told apart by URL and HTTP method. -/
theorem HasOwnKeys.eq_of_mem_values {store : EndpointStore} (h : store.HasOwnKeys)
    {a b : Endpoint} (hA : a ∈ store.values) (hB : b ∈ store.values) (hUrl : a.url = b.url)
    (hMethod : a.httpMethod = b.httpMethod) : a = b := by
  obtain ⟨⟨k, a⟩, hEntryA, rfl⟩ := List.mem_map.1 hA
  obtain ⟨⟨l, b⟩, hEntryB, rfl⟩ := List.mem_map.1 hB
  have hFoundA := OrderedMap.get?_eq_some_iff.2 hEntryA
  have hFoundB := OrderedMap.get?_eq_some_iff.2 hEntryB
  have hKey : k = l := by
    rw [← h k a hFoundA, ← h l b hFoundB, Endpoint.key, Endpoint.key, hUrl, hMethod]
  rw [hKey, hFoundB] at hFoundA
  exact (Option.some.inj hFoundA).symm

end EndpointStore

/-- Two runs agree if they hold the same endpoint under each key, report the same list, give
the same diagnostics, each as often, and count the same. -/
structure Extraction.AgreesWith (run other : Extraction) : Prop where
  lookup : ∀ k, run.store.get? k = other.store.get? k
  sorted : sortEndpoints run.store.values = sortEndpoints other.store.values
  diagnostics : run.diagnostics.Perm other.diagnostics
  controllers : run.controllers = other.controllers
  handlerMethods : run.handlerMethods = other.handlerMethods

/-- Neither the order of the classes nor their grouping matters if no route is declared by two
controllers: whatever batches the classes are spread over, in whatever order, the runs over the
batches on one store that is empty at first agree with a single run over the model. -/
theorem extractBatches_reordered {model : SourceModel} {batches : List SourceModel}
    (hPerm : batches.flatten.Perm model) (hOnce : model.DeclaresRoutesOnce)
    (diagnostics : List Diagnostic) :
    (extractBatches batches .empty diagnostics).AgreesWith
      (extract model .empty diagnostics) := by
  have hControllers := SourceModel.controllers_perm hPerm
  -- The last emission with a key decides what it holds, and those with one key keep their order.
  have hLookup : ∀ k,
      (EndpointStore.addAll .empty (SourceModel.emissions batches.flatten)).get? k =
        (EndpointStore.addAll .empty model.emissions).get? k := by
    intro k
    rw [EndpointStore.get?_addAll, EndpointStore.get?_addAll,
      SourceModel.filter_emissions_eq_of_perm hPerm.symm hOnce]
  have hOwn := EndpointStore.hasOwnKeys_empty.addAll (SourceModel.emissions batches.flatten)
  rw [extractBatches_eq, extract_eq, extract_eq]
  constructor
  case lookup => exact hLookup
  case sorted =>
    exact sortEndpoints_eq_of_perm (OrderedMap.values_perm_of_get? hLookup)
      fun a hA b hB => hOwn.eq_of_mem_values hA hB
  case diagnostics =>
    exact (hControllers.flatMap_right AnnotatedClass.problems).append_left diagnostics
  case controllers => exact hControllers.length_eq
  case handlerMethods =>
    exact (hControllers.flatMap_right AnnotatedClass.countedHandlers).length_eq

/-- A controller without a prefix of its own. -/
def shopCatalogue : AnnotatedClass :=
  ⟨"Catalogue", "Catalogue.java", [shopUse "RestController" .absent], [shopHandler]⟩

/-- A controller that declares a route twice, the second time without the guard. -/
def shopReturns : AnnotatedClass :=
  ⟨"Returns", "Returns.java",
    [shopUse "RestController" .absent, shopUse "RequestMapping" (.literal "/returns")],
    [⟨"open", "open()", "Returns",
        [shopUse "GetMapping" (.literal "all"), shopUse "PreAuthorize" (.literal "staff")]⟩,
      shopHandler]⟩

/-- The two controllers in the other order, one in each batch, with an empty batch between. -/
theorem shopReturns_before_shopCatalogue :
    ([[shopReturns], [], [shopCatalogue]] : List SourceModel).flatten.Perm
        [shopCatalogue, shopReturns] ∧
      SourceModel.DeclaresRoutesOnce [shopCatalogue, shopReturns] ∧
      (extractBatches [[shopReturns], [], [shopCatalogue]] .empty []).AgreesWith
        (extract [shopCatalogue, shopReturns] .empty []) := by
  have hPerm : ([[shopReturns], [], [shopCatalogue]] : List SourceModel).flatten.Perm
      [shopCatalogue, shopReturns] := .swap _ _ _
  have hOnce : SourceModel.DeclaresRoutesOnce [shopCatalogue, shopReturns] := by decide
  exact ⟨hPerm, hOnce, extractBatches_reordered hPerm hOnce []⟩

end SpringAudit

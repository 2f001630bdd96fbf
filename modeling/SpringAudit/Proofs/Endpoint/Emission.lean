import Mathlib.Data.List.Basic
import SpringAudit.Endpoint.Extraction
import SpringAudit.Proofs.OrderedMap.Writes
import SpringAudit.Proofs.Source.Marker

/-!
# What a run writes and reports

A run over a model threads a store and diagnostics through controllers, their
prefixes and their handlers.  This module gives the two sequences that come out
of it without any state: `SourceModel.emissions` lists what is written, ordered
by controller, prefix, method, annotation, URL and HTTP method, and
`SourceModel.problems` lists what is reported.

* `Composition.read_eq`, `Extraction.visit_eq`: what one step adds.
* `extract_eq`: what a whole run adds, for any store and diagnostics before it.

The emissions name the guards by the last annotation of each kind.  The handlers
are composed once and then written below each prefix, but the emissions go
through the methods anew for each prefix; that both agree is part of the proof.
-/

namespace SpringAudit

/-! ## The emissions and the problems of a model -/

namespace AnnotationUse

/-- The endpoints of an annotation on a method with given guards, before any prefix; there
are none unless it is a route annotation with both arguments in order. -/
def routeEndpoints (guards : Guards) (a : AnnotationUse) : List Endpoint :=
  match a.marker? with
  | some (.route fixed) =>
    match a.urls, a.httpMethods fixed with
    | .ok urls, .ok methods =>
      urls.flatMap fun url => methods.map fun method => ⟨url, method, guards⟩
    | _, _ => []
  | _ => []

/-- The diagnostic of a route annotation with an argument that is not in order; an error of
the URL counts before one of the HTTP method. -/
def routeProblem? (a : AnnotationUse) : Option Diagnostic :=
  match a.marker? with
  | some (.route fixed) =>
    match a.urls, a.httpMethods fixed with
    | .ok _, .ok _ => none
    | .error e, _ => some (e.diagnostic a)
    | .ok _, .error e => some (e.diagnostic a)
  | _ => none

end AnnotationUse

namespace AnnotatedMethod

/-- The text of the last guard annotation of a kind, which is empty if there is none. -/
def lastGuardText (m : AnnotatedMethod) (kind : GuardKind) : Text :=
  match (m.annotations.filter fun a => decide (a.marker? = some (.guard kind))).getLast? with
  | some a => (a.argument "value").guardText
  | none => []

/-- The guards of a method by the last annotation of each kind. -/
def lastGuards (m : AnnotatedMethod) : Guards :=
  .ofKinds m.lastGuardText

/-- What an annotation of a method writes below a prefix: for each URL in order and each HTTP
method in order one endpoint. -/
def emissionsBelow (before : Text) (m : AnnotatedMethod) (a : AnnotationUse) : List Endpoint :=
  match a.marker? with
  | some (.route fixed) =>
    match a.urls, a.httpMethods fixed with
    | .ok urls, .ok methods =>
      urls.flatMap fun url =>
        methods.map fun method => ⟨joinUrl before url, method, m.lastGuards⟩
    | _, _ => []
  | _ => []

end AnnotatedMethod

namespace AnnotatedClass

/-- What a controller writes to the store, in this order. -/
def emissions (c : AnnotatedClass) : List Endpoint :=
  match c.prefixes with
  | .ok found =>
    found.flatMap fun before =>
      c.methods.flatMap fun m => m.annotations.flatMap (m.emissionsBelow before)
  | .error _ => []

/-- The diagnostics of a controller, in this order. -/
def problems (c : AnnotatedClass) : List Diagnostic :=
  match c.prefixes with
  | .ok _ => c.methods.flatMap fun m => m.annotations.filterMap AnnotationUse.routeProblem?
  | .error problem => [problem]

/-- The handlers that count: those of a controller whose prefixes are known. -/
def countedHandlers (c : AnnotatedClass) : List AnnotatedMethod :=
  match c.prefixes with
  | .ok _ => c.handlers
  | .error _ => []

end AnnotatedClass

namespace SourceModel

/-- What all controllers write to the store, in this order. -/
def emissions (model : SourceModel) : List Endpoint :=
  model.controllers.flatMap AnnotatedClass.emissions

/-- The diagnostics of all controllers, in this order. -/
def problems (model : SourceModel) : List Diagnostic :=
  model.controllers.flatMap AnnotatedClass.problems

/-- The handlers of all controllers that count. -/
def countedHandlers (model : SourceModel) : List AnnotatedMethod :=
  model.controllers.flatMap AnnotatedClass.countedHandlers

end SourceModel

/-! ## One annotation -/

namespace AnnotationUse

variable {a : AnnotationUse} {fixed : Option Text}

theorem endpoints_eq_ok {urls methods : List Text} (guards : Guards)
    (hUrls : a.urls = .ok urls) (hMethods : a.httpMethods fixed = .ok methods) :
    a.endpoints fixed guards =
      .ok (urls.flatMap fun url => methods.map fun method => ⟨url, method, guards⟩) := by
  rw [endpoints, hUrls, hMethods]
  rfl

theorem endpoints_eq_error_of_urls {e : ResolutionError} (guards : Guards)
    (hUrls : a.urls = .error e) : a.endpoints fixed guards = .error e := by
  rw [endpoints, hUrls]
  rfl

theorem endpoints_eq_error_of_httpMethods {urls : List Text} {e : ResolutionError}
    (guards : Guards) (hUrls : a.urls = .ok urls) (hMethods : a.httpMethods fixed = .error e) :
    a.endpoints fixed guards = .error e := by
  rw [endpoints, hUrls, hMethods]
  rfl

end AnnotationUse

/-- Reading an annotation adds its endpoints and its diagnostic, and there is never both. -/
theorem Composition.read_eq (guards : Guards) (before : Composition) (a : AnnotationUse) :
    before.read guards a =
      ⟨before.endpoints ++ a.routeEndpoints guards,
        before.diagnostics ++ a.routeProblem?.toList⟩ := by
  unfold Composition.read AnnotationUse.routeEndpoints AnnotationUse.routeProblem?
  cases hMarker : a.marker? with
  | none => simp
  | some marker =>
      cases marker with
      | controller => simp
      | guard kind => simp
      | route fixed =>
          cases hUrls : a.urls with
          | error e => simp [AnnotationUse.endpoints_eq_error_of_urls guards hUrls]
          | ok urls =>
              cases hMethods : a.httpMethods fixed with
              | error e =>
                  simp [AnnotationUse.endpoints_eq_error_of_httpMethods guards hUrls hMethods,
                    hMethods]
              | ok methods =>
                  simp [AnnotationUse.endpoints_eq_ok guards hUrls hMethods, hMethods]

/-- Below a prefix an annotation writes its endpoints with their URLs joined to it. -/
theorem AnnotatedMethod.emissionsBelow_eq_map (before : Text) (m : AnnotatedMethod)
    (a : AnnotationUse) :
    m.emissionsBelow before a =
      (a.routeEndpoints m.lastGuards).map (Endpoint.below before) := by
  unfold AnnotatedMethod.emissionsBelow AnnotationUse.routeEndpoints
  split
  · split
    · simp [List.map_flatMap, Endpoint.below, Endpoint.withUrl, Function.comp_def]
    · rfl
  · rfl

/-- An annotation that marks no route stands for no endpoint and has no problem. -/
theorem AnnotationUse.eq_nil_of_not_route {a : AnnotationUse} (h : ¬ a.marks Marker.isRoute)
    (guards : Guards) : a.routeEndpoints guards = [] ∧ a.routeProblem? = none := by
  unfold AnnotationUse.routeEndpoints AnnotationUse.routeProblem?
  cases hMarker : a.marker? with
  | none => exact ⟨rfl, rfl⟩
  | some marker =>
      cases marker with
      | controller => exact ⟨rfl, rfl⟩
      | guard kind => exact ⟨rfl, rfl⟩
      | route fixed =>
          rw [AnnotationUse.marks, hMarker] at h
          exact absurd rfl h

/-- An endpoint of an annotation has one of its URLs, one of its HTTP methods and the guards. -/
theorem AnnotationUse.exists_of_mem_routeEndpoints {a : AnnotationUse} {guards : Guards}
    {e : Endpoint} (h : e ∈ a.routeEndpoints guards) :
    ∃ fixed urls methods, a.marker? = some (.route fixed) ∧ a.urls = .ok urls ∧
      a.httpMethods fixed = .ok methods ∧ e.url ∈ urls ∧ e.httpMethod ∈ methods ∧
      e.guards = guards := by
  unfold AnnotationUse.routeEndpoints at h
  split at h
  · next fixed hMarker =>
    split at h
    · next urls methods hUrls hMethods =>
      obtain ⟨url, hUrl, h⟩ := List.mem_flatMap.1 h
      obtain ⟨method, hMethod, rfl⟩ := List.mem_map.1 h
      exact ⟨fixed, urls, methods, hMarker, hUrls, hMethods, hUrl, hMethod, rfl⟩
    · cases h
  · cases h

/-! ## One method -/

namespace AnnotatedMethod

/-- The entries of a kind are the annotations of that kind with their texts. -/
theorem filter_guards (annotations : List AnnotationUse) (kind : GuardKind) :
    (annotations.filterMap AnnotationUse.guard?).filter
        (fun entry => decide (entry.1 = kind)) =
      (annotations.filter fun a => decide (a.marker? = some (.guard kind))).map
        fun a => (kind, (a.argument "value").guardText) := by
  induction annotations with
  | nil => rfl
  | cons a rest ih =>
      cases hMarker : a.marker? with
      | none => simpa [AnnotationUse.guard?, hMarker] using ih
      | some marker =>
          cases marker with
          | controller => simpa [AnnotationUse.guard?, hMarker] using ih
          | route fixed => simpa [AnnotationUse.guard?, hMarker] using ih
          | guard found =>
              -- Both filters keep the annotation or both drop it.
              by_cases hKind : found = kind
              · subst hKind
                simpa [AnnotationUse.guard?, hMarker] using ih
              · simpa [AnnotationUse.guard?, hMarker, hKind] using ih

/-- The table of guards, in which a repeated kind overwrites, holds the last text of each. -/
theorem guards_eq_lastGuards (m : AnnotatedMethod) : m.guards = m.lastGuards := by
  have hText (kind : GuardKind) : (m.guardTable.get? kind).getD [] = m.lastGuardText kind := by
    rw [guardTable, OrderedMap.get?_ofList, OrderedMap.lastValue?, filter_guards,
      List.getLast?_map, lastGuardText]
    cases (m.annotations.filter fun a =>
      decide (a.marker? = some (Marker.guard kind))).getLast? <;> rfl
  simp only [guards, lastGuards, hText]

/-- Composing adds what each annotation adds, one after another. -/
theorem foldl_read (guards : Guards) (annotations : List AnnotationUse) (before : Composition) :
    annotations.foldl (Composition.read guards) before =
      ⟨before.endpoints ++ annotations.flatMap (AnnotationUse.routeEndpoints guards),
        before.diagnostics ++ annotations.filterMap AnnotationUse.routeProblem?⟩ := by
  induction annotations generalizing before with
  | nil => simp
  | cons a rest ih =>
      rw [List.foldl_cons, ih, Composition.read_eq]
      cases hProblem : a.routeProblem? <;> simp [hProblem]

theorem endpoints_eq (m : AnnotatedMethod) :
    m.endpoints = m.annotations.flatMap (AnnotationUse.routeEndpoints m.lastGuards) := by
  rw [endpoints, compose, foldl_read, guards_eq_lastGuards]
  rfl

/-- What all annotations of a method write below a prefix, read off the composed method. -/
theorem flatMap_emissionsBelow (before : Text) (m : AnnotatedMethod) :
    m.annotations.flatMap (m.emissionsBelow before) = m.endpoints.map (Endpoint.below before) := by
  rw [endpoints_eq, List.map_flatMap]
  congr 1
  funext a
  exact emissionsBelow_eq_map before m a

theorem problems_eq (m : AnnotatedMethod) :
    m.problems = m.annotations.filterMap AnnotationUse.routeProblem? := by
  rw [problems, compose, foldl_read]
  rfl

/-- Composing a method depends on the diagnostics before it only by keeping them. -/
theorem compose_eq (m : AnnotatedMethod) (diagnostics : List Diagnostic) :
    m.compose diagnostics = ⟨m.endpoints, diagnostics ++ m.problems⟩ := by
  rw [endpoints_eq, problems_eq, compose, foldl_read, guards_eq_lastGuards]
  rfl

/-- A method without a route annotation writes and reports nothing. -/
theorem endpoints_problems_eq_nil {m : AnnotatedMethod} (h : ¬ m.hasAny Marker.routeNames) :
    m.endpoints = [] ∧ m.problems = [] := by
  have hNone (a : AnnotationUse) (ha : a ∈ m.annotations) :
      a.routeEndpoints m.lastGuards = [] ∧ a.routeProblem? = none := by
    refine AnnotationUse.eq_nil_of_not_route (fun hRoute => h ?_) m.lastGuards
    rw [hasAny_routeNames]
    exact List.any_eq_true.2 ⟨a, ha, hRoute⟩
  constructor
  · rw [endpoints_eq, List.flatMap_eq_nil_iff]
    exact fun a ha => (hNone a ha).1
  · rw [problems_eq, List.filterMap_eq_nil_iff]
    exact fun a ha => (hNone a ha).2

end AnnotatedMethod

/-! ## One controller -/

/-- What the elements that pass a test contribute. -/
theorem flatMap_filter_eq_flatMap_ite {α β : Type} (keep : α → Bool) (f : α → List β)
    (l : List α) : (l.filter keep).flatMap f = l.flatMap fun a => if keep a then f a else [] := by
  induction l with
  | nil => rfl
  | cons a rest ih => by_cases hKeep : keep a <;> simp [hKeep, ih]

/-- What is left out of a list does not count if it contributes nothing. -/
theorem flatMap_filter_eq_flatMap {α β : Type} {keep : α → Bool} {f : α → List β}
    (l : List α) (h : ∀ a ∈ l, ¬ keep a → f a = []) : (l.filter keep).flatMap f = l.flatMap f := by
  rw [flatMap_filter_eq_flatMap_ite]
  refine List.flatMap_congr fun a ha => ?_
  by_cases hKeep : keep a
  · rw [if_pos hKeep]
  · rw [if_neg hKeep, h a ha hKeep]

/-- Composing several handlers gives the endpoints of each and all their diagnostics. -/
theorem composeAll_eq (diagnostics : List Diagnostic) (handlers : List AnnotatedMethod) :
    composeAll diagnostics handlers =
      (handlers.map AnnotatedMethod.endpoints,
        diagnostics ++ handlers.flatMap AnnotatedMethod.problems) := by
  induction handlers generalizing diagnostics with
  | nil => simp [composeAll]
  | cons m rest ih => simp [composeAll, AnnotatedMethod.compose_eq, ih]

namespace EndpointStore

@[simp] theorem addAll_nil (store : EndpointStore) : store.addAll [] = store := rfl

theorem addAll_append (store : EndpointStore) (first second : List Endpoint) :
    store.addAll (first ++ second) = (store.addAll first).addAll second :=
  List.foldl_append

/-- Writing endpoints is writing entries under their own keys. -/
theorem addAll_eq_insertAll (store : EndpointStore) (endpoints : List Endpoint) :
    store.addAll endpoints = store.insertAll (endpoints.map fun e => (e.key, e)) := by
  rw [OrderedMap.insertAll, List.foldl_map]
  rfl

/-- Writing below several prefixes, one after another, writes the endpoints prefix by prefix. -/
theorem foldl_addBelow (composed : List (List Endpoint)) (store : EndpointStore)
    (found : List Text) :
    found.foldl (EndpointStore.addBelow composed) store =
      store.addAll (found.flatMap fun before =>
        composed.flatMap fun endpoints => endpoints.map (Endpoint.below before)) := by
  have hBelow (written : EndpointStore) (before : Text) :
      EndpointStore.addBelow composed written before =
        written.addAll (composed.flatMap fun endpoints =>
          endpoints.map (Endpoint.below before)) := by
    rw [addAll, List.foldl_flatMap]
    rfl
  rw [addAll, List.foldl_flatMap]
  congr 1
  funext written before
  exact hBelow written before

end EndpointStore

namespace AnnotatedClass

/-- The emissions of a controller with known prefixes, read off its composed handlers. -/
theorem emissions_eq_of_prefixes {c : AnnotatedClass} {found : List Text}
    (h : c.prefixes = .ok found) :
    c.emissions =
      found.flatMap fun before =>
        (c.handlers.map AnnotatedMethod.endpoints).flatMap fun endpoints =>
          endpoints.map (Endpoint.below before) := by
  -- The run goes through the handlers only; the other methods have nothing to write.
  have hNoHandler (before : Text) (m : AnnotatedMethod) (_ : m ∈ c.methods)
      (hNot : ¬ m.hasAny Marker.routeNames) : m.endpoints.map (Endpoint.below before) = [] := by
    rw [(AnnotatedMethod.endpoints_problems_eq_nil hNot).1, List.map_nil]
  simp only [emissions, h, AnnotatedMethod.flatMap_emissionsBelow, List.flatMap_map]
  congr 1
  funext before
  exact (flatMap_filter_eq_flatMap c.methods (hNoHandler before)).symm

/-- The problems of a controller with known prefixes, read off its handlers. -/
theorem problems_eq_of_prefixes {c : AnnotatedClass} {found : List Text}
    (h : c.prefixes = .ok found) :
    c.problems = c.handlers.flatMap AnnotatedMethod.problems := by
  have hNoHandler (m : AnnotatedMethod) (_ : m ∈ c.methods)
      (hNot : ¬ m.hasAny Marker.routeNames) : m.problems = [] :=
    (AnnotatedMethod.endpoints_problems_eq_nil hNot).2
  simp only [problems, h, ← AnnotatedMethod.problems_eq]
  exact (flatMap_filter_eq_flatMap c.methods hNoHandler).symm

end AnnotatedClass

/-- A visit writes the controller's emissions and reports its problems, whatever the run has
found before. -/
theorem Extraction.visit_eq (run : Extraction) (c : AnnotatedClass) :
    run.visit c =
      ⟨run.store.addAll c.emissions, run.diagnostics ++ c.problems, run.controllers,
        run.handlerMethods + c.countedHandlers.length⟩ := by
  cases hPrefixes : c.prefixes with
  | error problem =>
      simp [Extraction.visit, AnnotatedClass.emissions, AnnotatedClass.problems,
        AnnotatedClass.countedHandlers, hPrefixes]
  | ok found =>
      simp [Extraction.visit, composeAll_eq, EndpointStore.foldl_addBelow,
        AnnotatedClass.emissions_eq_of_prefixes hPrefixes,
        AnnotatedClass.problems_eq_of_prefixes hPrefixes, AnnotatedClass.countedHandlers,
        hPrefixes]

/-! ## A whole run -/

theorem Extraction.foldl_visit (controllers : List AnnotatedClass) (run : Extraction) :
    controllers.foldl Extraction.visit run =
      ⟨run.store.addAll (controllers.flatMap AnnotatedClass.emissions),
        run.diagnostics ++ controllers.flatMap AnnotatedClass.problems, run.controllers,
        run.handlerMethods +
          (controllers.flatMap AnnotatedClass.countedHandlers).length⟩ := by
  -- What a controller adds does not depend on the run, so the run can be generalized.
  induction controllers generalizing run with
  | nil => simp
  | cons c rest ih =>
      rw [List.foldl_cons, ih, Extraction.visit_eq]
      simp [EndpointStore.addAll_append, Nat.add_assoc]

/-- A run writes the emissions of the model and reports its problems after what was there. -/
theorem extract_eq (model : SourceModel) (store : EndpointStore)
    (diagnostics : List Diagnostic) :
    extract model store diagnostics =
      ⟨store.addAll model.emissions, diagnostics ++ model.problems, model.controllers.length,
        model.countedHandlers.length⟩ := by
  rw [extract, Extraction.foldl_visit, Nat.zero_add]
  rfl

/-! ## The store after a run -/

namespace EndpointStore

/-- A key holds the last endpoint with that key, or what it held before. -/
theorem get?_addAll (store : EndpointStore) (endpoints : List Endpoint) (k : Text) :
    (store.addAll endpoints).get? k =
      ((endpoints.filter fun e => decide (e.key = k)).getLast?).or (store.get? k) := by
  rw [addAll_eq_insertAll, OrderedMap.get?_insertAll, OrderedMap.lastValue?, List.filter_map,
    List.getLast?_map, Option.map_map]
  simp [Function.comp_def]

theorem keys_addAll (store : EndpointStore) (endpoints : List Endpoint) :
    (store.addAll endpoints).keys =
      store.keys ++ store.newKeys (endpoints.map Endpoint.key) := by
  rw [addAll_eq_insertAll, OrderedMap.keys_insertAll, List.map_map]
  rfl

end EndpointStore

/-- The store after a run.  A key holds the last emission with that key, and what it held
before if there is none; the keys from before keep their order in front, and the new ones
follow in the order of their first emissions. -/
theorem extract_store_eq_last_emissions (model : SourceModel) (store : EndpointStore)
    (diagnostics : List Diagnostic) :
    (∀ k, (extract model store diagnostics).store.get? k =
      match (model.emissions.filter fun e => decide (e.key = k)).getLast? with
      | some e => some e
      | none => store.get? k) ∧
    (extract model store diagnostics).store.keys =
      store.keys ++ store.newKeys (model.emissions.map Endpoint.key) := by
  rw [extract_eq]
  constructor
  · intro k
    change (store.addAll model.emissions).get? k = _
    rw [EndpointStore.get?_addAll]
    cases (model.emissions.filter fun e => decide (e.key = k)).getLast? <;> rfl
  · exact EndpointStore.keys_addAll store model.emissions

end SpringAudit

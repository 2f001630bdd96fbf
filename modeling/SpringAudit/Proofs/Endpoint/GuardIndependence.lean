import SpringAudit.Proofs.Endpoint.Accounting
import SpringAudit.Proofs.Source.Marker

/-!
# Guards do not decide routes

Two models that differ in the guard annotations on methods only give the same routes:
the same keys in the same order, the same diagnostics and the same counts.  If the
difference is on a single method, the endpoints that other methods have written last
are the same with their guards (`extract_independent_of_guards`).

Both are the same fact about traces.  For any set of methods, taking the guard
annotations off these methods changes nothing in the trace of a run but the guards of
what these methods write (`tracedEmissions_withoutGuardsOn`).  The set of all methods
gives the first statement, the set of one method the second.
-/

namespace SpringAudit

/-! ## Taking guards off -/

/-- The place of a method in a model: the number of its class and its own number there. -/
abbrev MethodPlace := Nat × Nat

/-- The method without its guard annotations. -/
def AnnotatedMethod.withoutGuards (m : AnnotatedMethod) : AnnotatedMethod :=
  { m with annotations := m.annotations.filter fun a => !a.marks Marker.isGuard }

/-- The method without its guard annotations, should they be taken off. -/
def AnnotatedMethod.withoutGuardsIf (off : Bool) (m : AnnotatedMethod) : AnnotatedMethod :=
  if off then m.withoutGuards else m

/-- The class without the guard annotations on some of its methods. -/
def AnnotatedClass.withoutGuardsOn (on : Nat → Bool) (c : AnnotatedClass) : AnnotatedClass :=
  { c with methods := c.methods.mapIdx fun j m => m.withoutGuardsIf (on j) }

namespace SourceModel

/-- The model without the guard annotations on some of its methods. -/
def withoutGuardsOn (on : MethodPlace → Bool) (model : SourceModel) : SourceModel :=
  model.mapIdx fun i c => c.withoutGuardsOn fun j => on (i, j)

/-- The model without the guard annotations on any method. -/
def withoutGuards (model : SourceModel) : SourceModel :=
  model.withoutGuardsOn fun _ => true

/-- The model without the guard annotations on the method at a place. -/
def withoutGuardsAt (place : MethodPlace) (model : SourceModel) : SourceModel :=
  model.withoutGuardsOn fun other => decide (other = place)

/-- The last emission with a key and the site that it comes from. -/
def lastEmission? (model : SourceModel) (k : Text) : Option (Site × Endpoint) :=
  (model.tracedEmissions.filter fun entry => decide (entry.2.key = k)).getLast?

end SourceModel

/-- The endpoint without its guards. -/
def Endpoint.unguarded (e : Endpoint) : Endpoint :=
  { e with guards := .ofKinds fun _ => [] }

/-- The method that a site belongs to. -/
def Site.method? : Site → Option MethodPlace
  | .classMapping _ => none
  | .mapping cls method _ => some (cls, method)

/-- What is seen of an emission by someone who does not know the guards of some methods and
who does not count annotations. -/
def observed (on : MethodPlace → Bool) (entry : Site × Endpoint) :
    Option MethodPlace × Endpoint :=
  (entry.1.method?, if entry.1.method?.any on then entry.2.unguarded else entry.2)

@[simp] theorem key_observed (on : MethodPlace → Bool) (entry : Site × Endpoint) :
    (observed on entry).2.key = entry.2.key := by
  unfold observed
  cases entry.1.method?.any on <;> rfl

/-- Emissions that are observed alike come from the same method and differ at most in their
guards, and not even there unless the method is one whose guards are not known. -/
theorem eq_of_observed_eq {on : MethodPlace → Bool} {entry entry' : Site × Endpoint}
    (h : observed on entry = observed on entry') :
    entry.2.url = entry'.2.url ∧ entry.2.httpMethod = entry'.2.httpMethod ∧
      (entry.1.method?.any on = false → entry.2 = entry'.2) := by
  unfold observed at h
  obtain ⟨hMethod, hEndpoint⟩ := Prod.mk.inj h
  rw [← hMethod] at hEndpoint
  cases hOn : entry.1.method?.any on with
  | false =>
      rw [hOn] at hEndpoint
      have hSame : entry.2 = entry'.2 := hEndpoint
      exact ⟨congrArg Endpoint.url hSame, congrArg Endpoint.httpMethod hSame, fun _ => hSame⟩
  | true =>
      rw [hOn] at hEndpoint
      have hUrl := congrArg Endpoint.url hEndpoint
      have hHttpMethod := congrArg Endpoint.httpMethod hEndpoint
      exact ⟨hUrl, hHttpMethod, nofun⟩

/-! ## One method -/

/-- A guard annotation marks no route. -/
theorem AnnotationUse.not_route_of_guard {a : AnnotationUse} (h : a.marks Marker.isGuard = true) :
    ¬ a.marks Marker.isRoute := by
  obtain ⟨marker, hMarker, hGuard⟩ := (Option.any_eq_true _ _).1 h
  rw [marks, hMarker]
  cases marker with
  | controller => cases hGuard
  | route fixed => cases hGuard
  | guard kind => exact Bool.false_ne_true

/-- Up to guards an annotation stands for the same endpoints on any method. -/
theorem AnnotationUse.map_unguarded_routeEndpoints (a : AnnotationUse) (guards : Guards) :
    (a.routeEndpoints guards).map Endpoint.unguarded =
      a.routeEndpoints (.ofKinds fun _ => []) := by
  unfold routeEndpoints
  split
  · split
    · simp [List.map_flatMap, Endpoint.unguarded, Function.comp_def]
    · rfl
  · rfl

namespace AnnotatedMethod

theorem annotations_withoutGuards (m : AnnotatedMethod) :
    m.withoutGuards.annotations = m.annotations.filter fun a => !a.marks Marker.isGuard :=
  rfl

theorem map_unguarded_endpoints_withoutGuards (m : AnnotatedMethod) :
    m.withoutGuards.endpoints.map Endpoint.unguarded = m.endpoints.map Endpoint.unguarded := by
  simp only [endpoints_eq, List.map_flatMap, AnnotationUse.map_unguarded_routeEndpoints,
    annotations_withoutGuards]
  refine flatMap_filter_eq_flatMap m.annotations fun a _ hGuard => ?_
  have hNotRoute := AnnotationUse.not_route_of_guard (by simpa using hGuard)
  exact (AnnotationUse.eq_nil_of_not_route hNotRoute _).1

theorem problems_withoutGuards (m : AnnotatedMethod) :
    m.withoutGuards.problems = m.problems := by
  simp only [problems_eq, List.filterMap_eq_flatMap_toList, annotations_withoutGuards]
  refine flatMap_filter_eq_flatMap m.annotations fun a _ hGuard => ?_
  have hNotRoute := AnnotationUse.not_route_of_guard (by simpa using hGuard)
  rw [(AnnotationUse.eq_nil_of_not_route hNotRoute m.guards).2]
  rfl

/-- A handler remains a handler, and no method becomes one. -/
theorem hasAny_routeNames_withoutGuards (m : AnnotatedMethod) :
    m.withoutGuards.hasAny Marker.routeNames = m.hasAny Marker.routeNames := by
  have hRoute : (fun a : AnnotationUse => !a.marks Marker.isGuard && a.marks Marker.isRoute) =
      (·.marks Marker.isRoute) := by
    funext a
    by_cases hGuard : a.marks Marker.isGuard
    · simp [hGuard, AnnotationUse.not_route_of_guard hGuard]
    · simp [hGuard]
  rw [hasAny_routeNames, hasAny_routeNames, withoutGuards, List.any_filter, hRoute]

/-- What does not see guards is the same whether they are taken off or not. -/
theorem apply_withoutGuardsIf {β : Type} {f : AnnotatedMethod → β}
    (h : ∀ m : AnnotatedMethod, f m.withoutGuards = f m) (off : Bool) (m : AnnotatedMethod) :
    f (m.withoutGuardsIf off) = f m := by
  cases off with
  | false => rfl
  | true => exact h m

end AnnotatedMethod

/-! ## Changing elements by their places -/

section Places

variable {α β γ : Type} {change : Nat → α → α}

theorem zipIdx_mapIdx (l : List α) :
    (l.mapIdx change).zipIdx = l.zipIdx.map fun entry => (change entry.2 entry.1, entry.2) := by
  refine List.ext_getElem? fun i => ?_
  simp [List.getElem?_zipIdx, List.getElem?_mapIdx, Function.comp_def]

/-- Changing elements does not change what they contribute as far as it is looked at, if this
holds for each of them at its place. -/
theorem map_flatMapIdx_mapIdx {f : Nat → α → List β} {g : β → γ}
    (hSame : ∀ k a, (f k (change k a)).map g = (f k a).map g) (l : List α) :
    (flatMapIdx f (l.mapIdx change)).map g = (flatMapIdx f l).map g := by
  simp only [flatMapIdx, zipIdx_mapIdx, List.flatMap_map, List.map_flatMap, hSame]

/-- Nor does it change what is read off those that pass a test, if the test does not see it. -/
theorem map_filter_mapIdx {keep : α → Bool} {f : α → β}
    (hKeep : ∀ k a, keep (change k a) = keep a) (hSame : ∀ k a, f (change k a) = f a)
    (l : List α) : ((l.mapIdx change).filter keep).map f = (l.filter keep).map f := by
  have hPlaces : (l.zipIdx.filter fun entry => keep entry.1).map (fun entry => f entry.1) =
      (l.filter keep).map f := by
    conv_rhs => rw [← List.zipIdx_map_fst 0 l, List.filter_map, List.map_map]
    rfl
  rw [List.mapIdx_eq_zipIdx_map, List.filter_map, List.map_map, ← hPlaces]
  simp only [Function.comp_def, hKeep, hSame]

end Places

/-! ## One class -/

namespace AnnotatedClass

variable (on : Nat → Bool) (c : AnnotatedClass)

/-- What is read off the handlers is the same if it does not see guards. -/
theorem map_handlers_withoutGuardsOn {β : Type} {f : AnnotatedMethod → β}
    (h : ∀ m : AnnotatedMethod, f m.withoutGuards = f m) :
    (c.withoutGuardsOn on).handlers.map f = c.handlers.map f := by
  unfold handlers methodsWithAny withoutGuardsOn
  refine map_filter_mapIdx ?_ ?_ c.methods
  · exact fun j => AnnotatedMethod.apply_withoutGuardsIf
      AnnotatedMethod.hasAny_routeNames_withoutGuards (on j)
  · exact fun j => AnnotatedMethod.apply_withoutGuardsIf h (on j)

theorem problems_withoutGuardsOn : (c.withoutGuardsOn on).problems = c.problems := by
  have hPrefixes : (c.withoutGuardsOn on).prefixes = c.prefixes := rfl
  cases hFound : c.prefixes with
  | error problem => simp only [problems, hPrefixes, hFound]
  | ok found =>
      rw [problems_eq_of_prefixes hFound, problems_eq_of_prefixes (hPrefixes.trans hFound),
        List.flatMap_def, List.flatMap_def,
        map_handlers_withoutGuardsOn on c AnnotatedMethod.problems_withoutGuards]

theorem length_countedHandlers_withoutGuardsOn :
    (c.withoutGuardsOn on).countedHandlers.length = c.countedHandlers.length := by
  have hPrefixes : (c.withoutGuardsOn on).prefixes = c.prefixes := rfl
  have hHandlers : (c.withoutGuardsOn on).handlers.length = c.handlers.length := by
    simpa using congrArg List.length
      (map_handlers_withoutGuardsOn on c (f := fun _ => ()) fun _ => rfl)
  cases hFound : c.prefixes with
  | error problem => simp only [countedHandlers, hPrefixes, hFound]
  | ok found => simp only [countedHandlers, hPrefixes, hFound, hHandlers]

end AnnotatedClass

/-- What is observed of the emissions of a method below a prefix. -/
theorem AnnotatedMethod.map_observed_emissions (on : MethodPlace → Bool) (cls j : Nat)
    (before : Text) (m : AnnotatedMethod) :
    (flatMapIdx (fun k a => (m.emissionsBelow before a).map (Prod.mk (Site.mapping cls j k)))
        m.annotations).map (observed on) =
      m.endpoints.map fun e =>
        (some (cls, j), if on (cls, j) then e.unguarded.below before else e.below before) := by
  have hUse (k : Nat) (a : AnnotationUse) :
      ((m.emissionsBelow before a).map (Prod.mk (Site.mapping cls j k))).map (observed on) =
        (m.emissionsBelow before a).map fun e =>
          (some (cls, j), if on (cls, j) then e.unguarded else e) := by
    rw [List.map_map]
    rfl
  rw [map_flatMapIdx hUse, ← List.map_flatMap, AnnotatedMethod.flatMap_emissionsBelow,
    List.map_map]
  rfl

/-- Taking guards off changes nothing that is observed of what a controller writes. -/
theorem AnnotatedClass.map_observed_tracedEmissions (on : MethodPlace → Bool) (cls : Nat)
    (c : AnnotatedClass) :
    ((c.withoutGuardsOn fun j => on (cls, j)).tracedEmissions cls).map (observed on) =
      (c.tracedEmissions cls).map (observed on) := by
  have hPrefixes : (c.withoutGuardsOn fun j => on (cls, j)).prefixes = c.prefixes := rfl
  unfold tracedEmissions
  rw [hPrefixes]
  cases c.prefixes with
  | error problem => rfl
  | ok found =>
      simp only [List.map_flatMap]
      congr 1
      funext before
      refine map_flatMapIdx_mapIdx (fun j m => ?_) c.methods
      rw [AnnotatedMethod.map_observed_emissions, AnnotatedMethod.map_observed_emissions]
      by_cases hOn : on (cls, j)
      · -- The guards are off on one side and not looked at on the other.
        have hEndpoints := congrArg (List.map fun e => (some (cls, j), e.below before))
          m.map_unguarded_endpoints_withoutGuards
        simpa [AnnotatedMethod.withoutGuardsIf, hOn, Function.comp_def] using hEndpoints
      · simp [AnnotatedMethod.withoutGuardsIf, hOn]

/-! ## A model -/

namespace SourceModel

variable (on : MethodPlace → Bool) (model : SourceModel)

/-- What is read off the controllers is the same if it does not see guards. -/
theorem map_controllers_withoutGuardsOn {β : Type} {f : AnnotatedClass → β}
    (h : ∀ (on : Nat → Bool) (c : AnnotatedClass), f (c.withoutGuardsOn on) = f c) :
    (model.withoutGuardsOn on).controllers.map f = model.controllers.map f := by
  unfold controllers withoutGuardsOn
  refine map_filter_mapIdx ?_ ?_ model
  · exact fun i c => rfl
  · exact fun i c => h (fun j => on (i, j)) c

theorem problems_withoutGuardsOn : (model.withoutGuardsOn on).problems = model.problems := by
  rw [problems, problems, List.flatMap_def, List.flatMap_def,
    map_controllers_withoutGuardsOn on model AnnotatedClass.problems_withoutGuardsOn]

theorem length_controllers_withoutGuardsOn :
    (model.withoutGuardsOn on).controllers.length = model.controllers.length := by
  simpa using congrArg List.length
    (map_controllers_withoutGuardsOn on model (f := fun _ => ()) fun _ _ => rfl)

theorem length_countedHandlers_withoutGuardsOn :
    (model.withoutGuardsOn on).countedHandlers.length = model.countedHandlers.length := by
  rw [countedHandlers, countedHandlers, List.length_flatMap, List.length_flatMap,
    map_controllers_withoutGuardsOn on model
      AnnotatedClass.length_countedHandlers_withoutGuardsOn]

/-- Taking guards off some methods changes nothing in the trace of a run but the guards of
what these methods write. -/
theorem tracedEmissions_withoutGuardsOn :
    (model.withoutGuardsOn on).tracedEmissions.map (observed on) =
      model.tracedEmissions.map (observed on) := by
  unfold tracedEmissions traced withoutGuardsOn
  refine map_flatMapIdx_mapIdx (fun i c => ?_) model
  have hController : (c.withoutGuardsOn fun j => on (i, j)).isController = c.isController := rfl
  by_cases hIs : c.isController
  · rw [if_pos hIs, if_pos (hController.trans hIs), AnnotatedClass.map_observed_tracedEmissions]
  · rw [if_neg hIs, if_neg fun h => hIs (hController.symm.trans h)]

end SourceModel

/-! ## Two models -/

namespace SourceModel

variable {on : MethodPlace → Bool} {model other : SourceModel}

/-- What does not see the guards of some methods is the same for models that differ only there. -/
theorem eq_of_withoutGuardsOn_eq {β : Type} (f : SourceModel → β)
    (hf : ∀ model : SourceModel, f (model.withoutGuardsOn on) = f model)
    (h : model.withoutGuardsOn on = other.withoutGuardsOn on) : f model = f other := by
  rw [← hf model, h, hf]

/-- Their traces are observed alike. -/
theorem tracedEmissions_observed (h : model.withoutGuardsOn on = other.withoutGuardsOn on) :
    model.tracedEmissions.map (observed on) = other.tracedEmissions.map (observed on) :=
  eq_of_withoutGuardsOn_eq (fun model => model.tracedEmissions.map (observed on))
    (tracedEmissions_withoutGuardsOn on) h

/-- Their emissions have the same keys. -/
theorem map_key_emissions_eq (h : model.withoutGuardsOn on = other.withoutGuardsOn on) :
    model.emissions.map Endpoint.key = other.emissions.map Endpoint.key := by
  have hKeys := congrArg (List.map fun seen => seen.2.key) (tracedEmissions_observed h)
  simp only [List.map_map, Function.comp_def, key_observed] at hKeys
  rwa [← map_snd_tracedEmissions, ← map_snd_tracedEmissions, List.map_map, List.map_map]

/-- The last emission of each key is observed alike. -/
theorem lastEmission?_observed (h : model.withoutGuardsOn on = other.withoutGuardsOn on)
    (k : Text) :
    (model.lastEmission? k).map (observed on) = (other.lastEmission? k).map (observed on) := by
  have hLast (model : SourceModel) : (model.lastEmission? k).map (observed on) =
      ((model.tracedEmissions.map (observed on)).filter fun seen =>
        decide (seen.2.key = k)).getLast? := by
    rw [List.filter_map, List.getLast?_map, lastEmission?]
    simp only [Function.comp_def, key_observed]
  rw [hLast, hLast, tracedEmissions_observed h]

/-- What a key holds in the end has the same URL and HTTP method in both models, and the same
guards unless it comes from one of the methods that differ. -/
theorem exists_lastEmission?_of_withoutGuardsOn_eq
    (h : model.withoutGuardsOn on = other.withoutGuardsOn on) {k : Text} {site : Site}
    {e : Endpoint} (hLast : model.lastEmission? k = some (site, e)) :
    ∃ site' f, other.lastEmission? k = some (site', f) ∧ e.url = f.url ∧
      e.httpMethod = f.httpMethod ∧ (site.method?.any on = false → e = f) := by
  have hObserved := lastEmission?_observed h k
  rw [hLast, Option.map_some] at hObserved
  obtain ⟨⟨site', f⟩, hOther, hSeen⟩ := Option.map_eq_some_iff.1 hObserved.symm
  exact ⟨site', f, hOther, eq_of_observed_eq hSeen.symm⟩

/-- Every key that is written has a last emission. -/
theorem exists_lastEmission?_of_mem {e : Endpoint} (h : e ∈ model.emissions) :
    ∃ entry, model.lastEmission? e.key = some entry := by
  rw [← map_snd_tracedEmissions] at h
  obtain ⟨entry, hEntry, rfl⟩ := List.mem_map.1 h
  refine Option.ne_none_iff_exists'.1 fun hNone => ?_
  rw [lastEmission?, List.getLast?_eq_none_iff, List.filter_eq_nil_iff] at hNone
  exact hNone entry hEntry (decide_eq_true rfl)

end SourceModel

/-- After a run a key holds its last emission. -/
theorem get?_extract_of_lastEmission? {model : SourceModel} {k : Text} {site : Site}
    {e : Endpoint} (h : model.lastEmission? k = some (site, e)) (store : EndpointStore)
    (diagnostics : List Diagnostic) :
    (extract model store diagnostics).store.get? k = some e := by
  rw [(extract_eq_traced model store diagnostics).1, EndpointStore.get?_addAll, List.filter_map,
    List.getLast?_map]
  change ((model.lastEmission? k).map Prod.snd).or (store.get? k) = some e
  rw [h]
  rfl

/-- Two runs find the same routes if their stores have the same keys in the same order, each
written key with the same URL and HTTP method in both, and if they report the same diagnostics
and count the same. -/
structure Extraction.FindsSameRoutes (written : List Text) (run other : Extraction) : Prop where
  keys : run.store.keys = other.store.keys
  routes : ∀ k ∈ written, ∃ e f, run.store.get? k = some e ∧ other.store.get? k = some f ∧
    e.url = f.url ∧ e.httpMethod = f.httpMethod
  diagnostics : run.diagnostics = other.diagnostics
  controllers : run.controllers = other.controllers
  handlerMethods : run.handlerMethods = other.handlerMethods

/-- Runs over models that differ only in the guards of some methods find the same routes. -/
theorem findsSameRoutes_of_withoutGuardsOn_eq {on : MethodPlace → Bool}
    {model other : SourceModel} {store store' : EndpointStore}
    (h : model.withoutGuardsOn on = other.withoutGuardsOn on) (hKeys : store.keys = store'.keys)
    (diagnostics : List Diagnostic) :
    (extract model store diagnostics).FindsSameRoutes (model.emissions.map Endpoint.key)
      (extract other store' diagnostics) := by
  constructor
  case keys =>
    rw [extract_eq, extract_eq, EndpointStore.keys_addAll, EndpointStore.keys_addAll,
      OrderedMap.newKeys, OrderedMap.newKeys, hKeys, SourceModel.map_key_emissions_eq h]
  case routes =>
    intro k hWritten
    obtain ⟨e, hE, rfl⟩ := List.mem_map.1 hWritten
    obtain ⟨⟨site, last⟩, hLast⟩ := SourceModel.exists_lastEmission?_of_mem hE
    obtain ⟨site', f, hOther, hUrl, hMethod, -⟩ :=
      SourceModel.exists_lastEmission?_of_withoutGuardsOn_eq h hLast
    exact ⟨last, f, get?_extract_of_lastEmission? hLast store diagnostics,
      get?_extract_of_lastEmission? hOther store' diagnostics, hUrl, hMethod⟩
  case diagnostics =>
    rw [extract_eq, extract_eq, SourceModel.eq_of_withoutGuardsOn_eq SourceModel.problems
      (SourceModel.problems_withoutGuardsOn on) h]
  case controllers =>
    rw [extract_eq, extract_eq]
    exact SourceModel.eq_of_withoutGuardsOn_eq (fun model => model.controllers.length)
      (SourceModel.length_controllers_withoutGuardsOn on) h
  case handlerMethods =>
    rw [extract_eq, extract_eq]
    exact SourceModel.eq_of_withoutGuardsOn_eq (fun model => model.countedHandlers.length)
      (SourceModel.length_countedHandlers_withoutGuardsOn on) h

/-- A key that is written last by a method that does not differ holds the same endpoint, guards
included, after both runs. -/
theorem get?_extract_of_written_elsewhere {on : MethodPlace → Bool} {model other : SourceModel}
    (h : model.withoutGuardsOn on = other.withoutGuardsOn on) {k : Text} {site : Site}
    {e : Endpoint} (hLast : model.lastEmission? k = some (site, e))
    (hElsewhere : site.method?.any on = false) (store store' : EndpointStore)
    (diagnostics : List Diagnostic) :
    (extract model store diagnostics).store.get? k = some e ∧
      (extract other store' diagnostics).store.get? k = some e := by
  -- The last emission of the key in the other model is this one, with the same guards.
  obtain ⟨site', f, hOther, -, -, hSame⟩ :=
    SourceModel.exists_lastEmission?_of_withoutGuardsOn_eq h hLast
  obtain rfl := hSame hElsewhere
  exact ⟨get?_extract_of_lastEmission? hLast store diagnostics,
    get?_extract_of_lastEmission? hOther store' diagnostics⟩

/-- Guards have no influence on the routes that are found, and they do not leak.  If two models
differ in the guard annotations on methods only, then runs over them, from stores with the same
keys and from the same diagnostics, find the same routes.  If they differ in those of the method
at one place only, then a key whose last emission comes from elsewhere holds the same endpoint,
guards included, after both runs. -/
theorem extract_independent_of_guards {model other : SourceModel} {store store' : EndpointStore}
    (hModels : model.withoutGuards = other.withoutGuards) (hKeys : store.keys = store'.keys)
    (diagnostics : List Diagnostic) :
    (extract model store diagnostics).FindsSameRoutes (model.emissions.map Endpoint.key)
        (extract other store' diagnostics) ∧
      ∀ place, model.withoutGuardsAt place = other.withoutGuardsAt place →
        ∀ k site e, model.lastEmission? k = some (site, e) → site.method? ≠ some place →
          (extract model store diagnostics).store.get? k = some e ∧
            (extract other store' diagnostics).store.get? k = some e := by
  refine ⟨findsSameRoutes_of_withoutGuardsOn_eq hModels hKeys diagnostics, ?_⟩
  intro place hPlace k site e hLast hElsewhere
  refine get?_extract_of_written_elsewhere hPlace hLast ?_ store store' diagnostics
  cases hMethod : site.method? with
  | none => rfl
  | some found =>
      rw [hMethod] at hElsewhere
      exact decide_eq_false fun hFound => hElsewhere (congrArg some hFound)

/-- A controller with two handlers for one route.  The first one has the given guards, the second
one, which is written later, is for staff. -/
def shopDesk (guards : List AnnotationUse) : SourceModel :=
  [⟨"Desk", "Desk.java", [shopUse "RestController" .absent],
      [⟨"list", "list()", "Desk", guards ++ [shopUse "GetMapping" (.literal "all")]⟩,
        ⟨"listAll", "listAll()", "Desk",
          [shopUse "GetMapping" (.literal "all"), shopUse "PreAuthorize" (.literal "staff")]⟩]⟩]

/-- What guards the first handler is not seen in the end, and the keys are the same. -/
theorem shopDesk_holds_last_guards :
    (shopDesk []).withoutGuards =
        (shopDesk [shopUse "PreAuthorize" (.literal "admin")]).withoutGuards ∧
      (shopDesk []).withoutGuardsAt (0, 0) =
        (shopDesk [shopUse "PreAuthorize" (.literal "admin")]).withoutGuardsAt (0, 0) ∧
      (extract (shopDesk []) .empty []).store.keys =
        (extract (shopDesk [shopUse "PreAuthorize" (.literal "admin")]) .empty []).store.keys ∧
      (extract (shopDesk [shopUse "PreAuthorize" (.literal "admin")]) .empty []).store.get?
        "/all|GET" = some ⟨"/all", "GET", ⟨"staff", [], [], []⟩⟩ := by
  have hModels : (shopDesk []).withoutGuards =
      (shopDesk [shopUse "PreAuthorize" (.literal "admin")]).withoutGuards := rfl
  have hPlace : (shopDesk []).withoutGuardsAt (0, 0) =
      (shopDesk [shopUse "PreAuthorize" (.literal "admin")]).withoutGuardsAt (0, 0) := rfl
  have hLast : (shopDesk []).lastEmission? "/all|GET" =
      some (.mapping 0 1 0, ⟨"/all", "GET", ⟨"staff", [], [], []⟩⟩) := by decide
  have hKeys : (OrderedMap.empty : EndpointStore).keys =
      (OrderedMap.empty : EndpointStore).keys := rfl
  obtain ⟨hRoutes, hElsewhere⟩ := extract_independent_of_guards hModels hKeys []
  exact ⟨hModels, hPlace, hRoutes.keys, (hElsewhere _ hPlace _ _ _ hLast (by decide)).2⟩

end SpringAudit

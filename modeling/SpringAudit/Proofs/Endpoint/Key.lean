import Mathlib.Data.Finset.Card
import SpringAudit.Proofs.Endpoint.SharedStore
import SpringAudit.Proofs.Traversal

/-!
# What a key tells

The key of an endpoint is its URL, a bar and its HTTP method, and nothing is escaped.  A URL
may contain bars too, but an HTTP method does not as long as no constant of the model has one
in its name.  The last bar of a key is therefore the one in the middle, and the key tells URL
and HTTP method (`endpointKey_inj`).

So a run overwrites an endpoint only by one with the same URL below its prefix and the same
HTTP method, and a store that is empty at first ends up with one endpoint for each such pair
(`extract_keys_identify_routes`).
-/

namespace SpringAudit

/-! ## Keys -/

/-- A bar in front of a text without one can only be matched by the first bar. -/
theorem eq_nil_of_bar_cons {httpMethod rest other : Text}
    (hNoBar : ('|' : CodePoint) ∉ httpMethod)
    (h : ('|' : CodePoint) :: httpMethod = rest ++ ('|' : CodePoint) :: other) : rest = [] := by
  cases rest with
  | nil => rfl
  | cons first rest =>
      rw [List.cons_append, List.cons.injEq] at h
      refine absurd ?_ hNoBar
      rw [h.2]
      simp

/-- A key tells URL and HTTP method if the latter contains no bar. -/
theorem endpointKey_inj {url url' httpMethod httpMethod' : Text}
    (hNoBar : ('|' : CodePoint) ∉ httpMethod) (hNoBar' : ('|' : CodePoint) ∉ httpMethod')
    (hKey : endpointKey url httpMethod = endpointKey url' httpMethod') :
    url = url' ∧ httpMethod = httpMethod' := by
  have hBar (text method : Text) :
      endpointKey text method = text ++ ('|' : CodePoint) :: method :=
    List.append_assoc text "|" method
  rw [hBar, hBar] at hKey
  rcases List.append_eq_append_iff.1 hKey with ⟨rest, hUrl, hRest⟩ | ⟨rest, hUrl, hRest⟩
  · obtain rfl := eq_nil_of_bar_cons hNoBar hRest
    exact ⟨by simpa using hUrl.symm, by simpa using hRest⟩
  · obtain rfl := eq_nil_of_bar_cons hNoBar' hRest
    exact ⟨by simpa using hUrl, by simpa using hRest.symm⟩

/-- Endpoints of one method are told apart by their keys. -/
theorem Endpoint.eq_of_key_eq {e e' : Endpoint} (hNoBar : ('|' : CodePoint) ∉ e.httpMethod)
    (hNoBar' : ('|' : CodePoint) ∉ e'.httpMethod) (hGuards : e.guards = e'.guards)
    (hKey : e.key = e'.key) : e = e' := by
  obtain ⟨hUrl, hMethod⟩ := endpointKey_inj hNoBar hNoBar' hKey
  cases e
  cases e'
  simp_all

theorem bar_notMem_of_mem_default {httpMethod : Text} (h : httpMethod ∈ defaultHttpMethods) :
    ('|' : CodePoint) ∉ httpMethod := by
  have hAll : ∀ httpMethod ∈ defaultHttpMethods, ('|' : CodePoint) ∉ httpMethod := by decide
  exact hAll httpMethod h

/-! ## URLs below a prefix -/

/-- A URL with a slash in front of it, unless it is empty or starts with one. -/
def rooted : Text → Text
  | [] => []
  | c :: rest => if c = '/' then c :: rest else '/' :: c :: rest

theorem joinUrl_eq (before url : Text) : joinUrl before url = before ++ rooted url := by
  cases url with
  | nil => rfl
  | cons c rest =>
      have hSlash : Text.startsWith (c :: rest) "/" = decide (c = '/') := by
        change ((('/' : CodePoint) == c) && true) = decide (c = '/')
        rw [Bool.and_true, Bool.eq_iff_iff, beq_iff_eq, decide_eq_true_iff]
        exact eq_comm
      rw [joinUrl, rooted, List.isEmpty_cons, Bool.false_or, hSlash]
      by_cases hHere : c = '/'
      · simp [hHere]
      · rw [if_neg (by simpa using hHere), if_neg hHere, List.append_assoc]
        rfl

/-! ## The parts of an emission -/

/-- What a controller writes, in this order: the endpoints of its annotations, each with the
prefix below which it is written. -/
def AnnotatedClass.emissionParts (c : AnnotatedClass) : List (Text × Endpoint) :=
  match c.prefixes with
  | .ok found =>
    found.flatMap fun before =>
      c.methods.flatMap fun m =>
        m.annotations.flatMap fun a => (a.routeEndpoints m.lastGuards).map (Prod.mk before)
  | .error _ => []

/-- What all controllers write, in this order, with the prefixes apart. -/
def SourceModel.emissionParts (model : SourceModel) : List (Text × Endpoint) :=
  model.controllers.flatMap AnnotatedClass.emissionParts

theorem AnnotatedClass.map_below_emissionParts (c : AnnotatedClass) :
    c.emissionParts.map (fun part => part.2.below part.1) = c.emissions := by
  unfold emissionParts emissions
  cases c.prefixes with
  | error problem => rfl
  | ok found =>
      have hUse (before : Text) (m : AnnotatedMethod) : m.emissionsBelow before =
          fun a => (a.routeEndpoints m.lastGuards).map (Endpoint.below before) := by
        funext a
        exact AnnotatedMethod.emissionsBelow_eq_map before m a
      simp only [List.map_flatMap, List.map_map, Function.comp_def, hUse]

theorem SourceModel.map_below_emissionParts (model : SourceModel) :
    model.emissionParts.map (fun part => part.2.below part.1) = model.emissions := by
  rw [emissionParts, emissions, List.map_flatMap]
  simp only [AnnotatedClass.map_below_emissionParts]

/-- An endpoint that is written is one of an annotation on a method of the model. -/
theorem SourceModel.exists_of_mem_emissionParts {model : SourceModel} {part : Text × Endpoint}
    (h : part ∈ model.emissionParts) :
    ∃ c ∈ model, ∃ m ∈ c.methods, ∃ a ∈ m.annotations,
      part.2 ∈ a.routeEndpoints m.lastGuards := by
  obtain ⟨c, hController, hClass⟩ := List.mem_flatMap.1 h
  unfold AnnotatedClass.emissionParts at hClass
  cases hPrefixes : c.prefixes with
  | error problem =>
      rw [hPrefixes] at hClass
      cases hClass
  | ok found =>
      rw [hPrefixes] at hClass
      obtain ⟨before, -, hBelow⟩ := List.mem_flatMap.1 hClass
      obtain ⟨m, hMethod, hUses⟩ := List.mem_flatMap.1 hBelow
      obtain ⟨a, hUse, hEndpoint⟩ := List.mem_flatMap.1 hUses
      obtain ⟨e, hMem, rfl⟩ := List.mem_map.1 hEndpoint
      exact ⟨c, List.mem_of_mem_filter hController, m, hMethod, a, hUse, hMem⟩

/-! ## The HTTP methods of a model -/

namespace ArgumentValue

mutual

/-- The names of the constants in a value, at any depth. -/
def constantNames : ArgumentValue → List Text
  | .constant _ name => [name]
  | .list items => constantNamesAmong items
  | _ => []

/-- The names of the constants in several values. -/
def constantNamesAmong : List ArgumentValue → List Text
  | [] => []
  | item :: items => item.constantNames ++ constantNamesAmong items

end

/-- An HTTP method that a value gives is the name of a constant in it. -/
theorem mem_constantNames_of_httpMethod? {value : ArgumentValue} {name : Text}
    (h : value.httpMethod? = .ok (some name)) : name ∈ value.constantNames := by
  cases value with
  | absent => cases h
  | literal text => cases h
  | expression text => cases h
  | constant qualifier found =>
      obtain rfl := Option.some.inj (Except.ok.inj h)
      exact List.mem_singleton.2 rfl
  | list items =>
      cases items with
      | nil => cases h
      | cons first rest =>
          cases first with
          | constant qualifier found =>
              obtain rfl := Option.some.inj (Except.ok.inj h)
              exact List.mem_append_left _ (List.mem_singleton.2 rfl)
          | absent => cases h
          | literal text => cases h
          | list items => cases h
          | expression text => cases h

end ArgumentValue

/-- The names of the constants in the arguments of an annotation. -/
def AnnotationUse.constantNames (a : AnnotationUse) : List Text :=
  a.arguments.values.flatMap ArgumentValue.constantNames

/-- The names of the constants in the annotations of a model. -/
def SourceModel.constantNames (model : SourceModel) : List Text :=
  model.flatMap fun c =>
    (c.annotations ++ c.methods.flatMap AnnotatedMethod.annotations).flatMap
      AnnotationUse.constantNames

namespace AnnotationUse

variable {a : AnnotationUse} {fixed : Option Text} {httpMethod : Text}

/-- An argument that is a constant, or holds one, is among the arguments. -/
theorem mem_constantNames_of_argument {argument name : Text}
    (h : name ∈ (a.argument argument).constantNames) : name ∈ a.constantNames := by
  rw [AnnotationUse.argument] at h
  cases hFound : a.arguments.get? argument with
  | none =>
      rw [hFound] at h
      cases h
  | some value =>
      rw [hFound] at h
      have hEntry := OrderedMap.get?_eq_some_iff.1 hFound
      exact List.mem_flatMap.2 ⟨value, List.mem_map.2 ⟨_, hEntry, rfl⟩, h⟩

/-- The HTTP methods that annotations fix have no bar. -/
theorem bar_notMem_of_marker (h : a.marker? = some (.route (some httpMethod))) :
    ('|' : CodePoint) ∉ httpMethod := by
  -- They are among those of a route that names none.
  have hTable : ∀ entry ∈ Marker.controllers ++ Marker.routes ++ Marker.guards,
      entry.2.isRoute = true → entry.2 = .route none ∨
        ∃ fixed ∈ defaultHttpMethods, entry.2 = .route (some fixed) := by
    decide
  rcases hTable _ (Marker.ofName?_eq_some_iff.1 h) rfl with hNone | ⟨fixed, hDefault, hSame⟩
  · cases hNone
  · obtain rfl := Option.some.inj (Marker.route.inj hSame)
    exact bar_notMem_of_mem_default hDefault

/-- The HTTP methods of a route have no bar if no constant of the annotation has one. -/
theorem bar_notMem_of_httpMethods {methods : List Text}
    (hMarker : a.marker? = some (.route fixed)) (hMethods : a.httpMethods fixed = .ok methods)
    (hNames : ∀ name ∈ a.constantNames, ('|' : CodePoint) ∉ name) (hMem : httpMethod ∈ methods) :
    ('|' : CodePoint) ∉ httpMethod := by
  cases fixed with
  | some name =>
      obtain rfl : [name] = methods := Except.ok.inj hMethods
      rw [List.mem_singleton.1 hMem]
      exact bar_notMem_of_marker hMarker
  | none =>
      rw [httpMethods] at hMethods
      obtain ⟨found, hFound, hRest⟩ := bind_eq_ok_iff.1 hMethods
      cases found with
      | none =>
          obtain rfl : defaultHttpMethods = methods := Except.ok.inj hRest
          exact bar_notMem_of_mem_default hMem
      | some name =>
          obtain rfl : [name] = methods := Except.ok.inj hRest
          rw [List.mem_singleton.1 hMem]
          have hConstant := ArgumentValue.mem_constantNames_of_httpMethod? hFound
          exact hNames name (mem_constantNames_of_argument hConstant)

end AnnotationUse

/-- No HTTP method that is written has a bar, if no constant of the model has one. -/
theorem SourceModel.bar_notMem_of_mem_emissionParts {model : SourceModel}
    {part : Text × Endpoint} (h : part ∈ model.emissionParts)
    (hNames : ∀ name ∈ model.constantNames, ('|' : CodePoint) ∉ name) :
    ('|' : CodePoint) ∉ part.2.httpMethod := by
  obtain ⟨c, hClass, m, hMethod, a, hUse, hEndpoint⟩ := exists_of_mem_emissionParts h
  obtain ⟨fixed, urls, methods, hMarker, -, hMethods, -, hMem, -⟩ :=
    AnnotationUse.exists_of_mem_routeEndpoints hEndpoint
  refine AnnotationUse.bar_notMem_of_httpMethods hMarker hMethods (fun name hName => ?_) hMem
  apply hNames name
  refine List.mem_flatMap.2 ⟨c, hClass, List.mem_flatMap.2 ⟨a, ?_, hName⟩⟩
  exact List.mem_append_right _ (List.mem_flatMap.2 ⟨m, hMethod, hUse⟩)

/-! ## The size of the store -/

/-- A store that is empty at first holds one endpoint for each key that is written. -/
theorem EndpointStore.size_addAll_empty (endpoints : List Endpoint) :
    OrderedMap.size (EndpointStore.addAll .empty endpoints) =
      (endpoints.map Endpoint.key).toFinset.card := by
  have hKeys : (EndpointStore.addAll .empty endpoints).keys.toFinset =
      (endpoints.map Endpoint.key).toFinset := by
    ext k
    rw [List.mem_toFinset, List.mem_toFinset, EndpointStore.addAll_eq_insertAll,
      OrderedMap.mem_keys_insertAll, List.map_map]
    simp [OrderedMap.keys_empty, Function.comp_def]
  have hNodup : (EndpointStore.addAll .empty endpoints).keys.Nodup :=
    (EndpointStore.addAll .empty endpoints).nodup_keys
  rw [← hKeys, List.toFinset_card_of_nodup hNodup, OrderedMap.keys, List.length_map]
  rfl

/-- Pairs whose second components have no bar are as many as the keys that are made of them. -/
theorem card_keys_eq (pairs : List (Text × Text))
    (hNoBar : ∀ pair ∈ pairs, ('|' : CodePoint) ∉ pair.2) :
    (pairs.map fun pair => endpointKey pair.1 pair.2).toFinset.card = pairs.toFinset.card := by
  have hImage : (pairs.map fun pair => endpointKey pair.1 pair.2).toFinset =
      pairs.toFinset.image fun pair => endpointKey pair.1 pair.2 := by
    ext k
    simp
  rw [hImage]
  apply Finset.card_image_of_injOn
  intro pair hPair pair' hPair' hKey
  have hFirst := hNoBar pair (by simpa using hPair)
  have hSecond := hNoBar pair' (by simpa using hPair')
  obtain ⟨hUrl, hMethod⟩ := endpointKey_inj hFirst hSecond hKey
  exact Prod.ext hUrl hMethod

/-- Keys identify routes in a model whose constants have no bar in their names.

* A run writes the parts that `emissionParts` lists, each endpoint below its prefix.
* Two of them get the same key exactly if they have the same HTTP method and the same URL
  behind their prefixes, where a slash is put before a URL that needs one.
* From an empty store a run leaves as many endpoints as there are pairs of such a URL and an
  HTTP method, and each stands under its own key. -/
theorem extract_keys_identify_routes (model : SourceModel) (diagnostics : List Diagnostic)
    (hNames : ∀ name ∈ model.constantNames, ('|' : CodePoint) ∉ name) :
    (∀ store : EndpointStore, (extract model store diagnostics).store =
      store.addAll (model.emissionParts.map fun part => part.2.below part.1)) ∧
    (∀ before e before' e', (before, e) ∈ model.emissionParts →
      (before', e') ∈ model.emissionParts →
        ((e.below before).key = (e'.below before').key ↔
          e.httpMethod = e'.httpMethod ∧
            before ++ rooted e.url = before' ++ rooted e'.url)) ∧
    (extract model .empty diagnostics).store.size =
      (model.emissionParts.map fun part =>
        (part.1 ++ rooted part.2.url, part.2.httpMethod)).toFinset.card ∧
    ∀ k e, (extract model .empty diagnostics).store.get? k = some e → k = e.key := by
  have hKey (part : Text × Endpoint) : (part.2.below part.1).key =
      endpointKey (part.1 ++ rooted part.2.url) part.2.httpMethod := by
    rw [← joinUrl_eq]
    rfl
  refine ⟨fun store => ?_, ?_, ?_, ?_⟩
  · rw [extract_eq, SourceModel.map_below_emissionParts]
  · intro before e before' e' hPart hPart'
    rw [hKey (before, e), hKey (before', e')]
    constructor
    · intro hSame
      obtain ⟨hUrl, hMethod⟩ := endpointKey_inj
        (SourceModel.bar_notMem_of_mem_emissionParts hPart hNames)
        (SourceModel.bar_notMem_of_mem_emissionParts hPart' hNames) hSame
      exact ⟨hMethod, hUrl⟩
    · rintro ⟨hMethod, hUrl⟩
      rw [hMethod, hUrl]
  · have hNoBar : ∀ pair ∈ model.emissionParts.map fun part =>
        (part.1 ++ rooted part.2.url, part.2.httpMethod), ('|' : CodePoint) ∉ pair.2 := by
      intro pair hPair
      obtain ⟨part, hPart, rfl⟩ := List.mem_map.1 hPair
      exact SourceModel.bar_notMem_of_mem_emissionParts hPart hNames
    rw [← card_keys_eq _ hNoBar, extract_eq, EndpointStore.size_addAll_empty,
      ← SourceModel.map_below_emissionParts, List.map_map, List.map_map]
    simp only [Function.comp_def, hKey]
  · intro k e hFound
    rw [extract_eq] at hFound
    exact (EndpointStore.hasOwnKeys_empty.addAll model.emissions k e hFound).symm

/-- A controller with an empty prefix and one with a bar at its end.  Its method has URLs with
bars too, and each is declared twice: with and without a slash, or by two annotations. -/
def shopBars : SourceModel :=
  [⟨"Bars", "Bars.java",
    [shopUse "RestController" .absent,
      shopUse "RequestMapping" (.list [.literal "", .literal "/x|"])],
    [⟨"list", "list()", "Bars",
      [shopUse "GetMapping" (.list [.literal "x|GET", .literal "/x|GET", .literal ""]),
        ⟨"RequestMapping", "RequestMapping", "shop",
          .ofList [("method", .constant "RequestMethod" "GET")]⟩]⟩]⟩]

/-- Of the eight endpoints that are written four remain: two below each prefix. -/
theorem shopBars_stored :
    (∀ name ∈ shopBars.constantNames, ('|' : CodePoint) ∉ name) ∧
      shopBars.emissionParts.length = 8 ∧ (extract shopBars .empty []).store.size = 4 := by
  have hNames : ∀ name ∈ shopBars.constantNames, ('|' : CodePoint) ∉ name := by decide
  obtain ⟨-, -, hSize, -⟩ := extract_keys_identify_routes shopBars [] hNames
  refine ⟨hNames, by decide, ?_⟩
  rw [hSize]
  decide

end SpringAudit

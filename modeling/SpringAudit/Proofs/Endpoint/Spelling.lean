import Mathlib.Data.List.Perm.Basic
import SpringAudit.Proofs.Endpoint.Exchange
import SpringAudit.Proofs.Endpoint.Key

/-!
# Spellings of a mapping

The same routes can be declared in several ways: by a short annotation or by the
general one that names the HTTP method, with the URL under either of its names, and
for all HTTP methods at once or for each of them in turn.  A run does not tell these
apart (`extract_respelled`).

The last way changes the order in which endpoints are written.  This does no harm:
two endpoints of one mapping below one prefix that have the same key are the same
endpoint, because no HTTP method in the list contains the bar that ends the URL in a
key (`endpointKey_inj`).  What may differ is the order of new keys in the store.
-/

namespace SpringAudit

/-! ## Changing the order of writes -/

/-- Of a list and a reordering of it a test keeps the same, if all that it keeps is equal. -/
theorem filter_eq_of_perm {α : Type} {keep : α → Bool} {l l' : List α} (hPerm : l.Perm l')
    (hSame : ∀ a ∈ l, ∀ b ∈ l, keep a → keep b → a = b) : l.filter keep = l'.filter keep := by
  have hKept := hPerm.filter keep
  cases hFilter : l.filter keep with
  | nil =>
      rw [hFilter] at hKept
      exact hKept.nil_eq
  | cons first rest =>
      have hMem (a : α) (ha : a ∈ l.filter keep) : a ∈ l ∧ keep a := List.mem_filter.1 ha
      have hFirst := hMem first (hFilter ▸ List.mem_cons_self)
      -- What is kept repeats one element, so it has only one order.
      have hReplicate : l.filter keep = List.replicate (l.filter keep).length first := by
        refine List.eq_replicate_length.2 fun a ha => ?_
        exact hSame a (hMem a ha).1 first hFirst.1 (hMem a ha).2 hFirst.2
      rw [← hFilter, hReplicate]
      rw [hReplicate] at hKept
      exact (List.perm_replicate.1 hKept.symm).symm

/-- The pairs of two lists can be listed by the first or by the second component. -/
theorem flatMap_map_perm {α β γ : Type} (f : α → β → γ) (l : List α) (l' : List β) :
    (l.flatMap fun a => l'.map (f a)).Perm (l'.flatMap fun b => l.map fun a => f a b) := by
  induction l with
  | nil => simp
  | cons a rest ih =>
      simp only [List.flatMap_cons, List.map_cons]
      exact (ih.append_left _).trans (List.map_append_flatMap_perm l' (f a) _)

/-- Below a prefix the endpoints with a given key are the same, whether they are listed by HTTP
methods or by URLs. -/
theorem filter_key_eq (before : Text) (guards : Guards) (urls : List Text) (k : Text) :
    ((defaultHttpMethods.flatMap fun method =>
        urls.map fun url => Endpoint.mk url method guards).map (Endpoint.below before)).filter
          (fun e => decide (e.key = k)) =
      ((urls.flatMap fun url =>
        defaultHttpMethods.map fun method => Endpoint.mk url method guards).map
          (Endpoint.below before)).filter fun e => decide (e.key = k) := by
  have hPerm := (flatMap_map_perm (fun method url => Endpoint.mk url method guards)
    defaultHttpMethods urls).map (Endpoint.below before)
  -- All of them have the same guards and one of the listed HTTP methods.
  have hMember (e : Endpoint) (hMem : e ∈ (defaultHttpMethods.flatMap fun method =>
      urls.map fun url => Endpoint.mk url method guards).map (Endpoint.below before)) :
      ('|' : CodePoint) ∉ e.httpMethod ∧ e.guards = guards := by
    obtain ⟨e, hPair, rfl⟩ := List.mem_map.1 hMem
    obtain ⟨method, hMethod, hUrl⟩ := List.mem_flatMap.1 hPair
    obtain ⟨url, -, rfl⟩ := List.mem_map.1 hUrl
    exact ⟨bar_notMem_of_mem_default hMethod, rfl⟩
  refine filter_eq_of_perm hPerm fun e hE e' hE' hKey hKey' => ?_
  obtain ⟨hNoBar, hGuards⟩ := hMember e hE
  obtain ⟨hNoBar', hGuards'⟩ := hMember e' hE'
  exact Endpoint.eq_of_key_eq hNoBar hNoBar' (hGuards.trans hGuards'.symm)
    ((of_decide_eq_true hKey).trans (of_decide_eq_true hKey').symm)

/-! ## Annotations that stand for routes -/

/-- The names of the short annotations, in the order in which their HTTP methods are listed. -/
def Marker.shortNames : List Text :=
  ["GetMapping", "PostMapping", "PutMapping", "DeleteMapping", "PatchMapping"]

/-- The short annotations fix the HTTP methods that a route has if it names none. -/
theorem Marker.map_ofName?_shortNames :
    Marker.shortNames.map Marker.ofName? =
      defaultHttpMethods.map fun httpMethod => some (.route (some httpMethod)) := by
  decide

namespace AnnotationUse

/-- A route annotation with its arguments in order: it stands for these URLs and HTTP methods. -/
structure StandsFor (a : AnnotationUse) (urls methods : List Text) : Prop where
  marker : ∃ fixed, a.marker? = some (.route fixed) ∧ a.httpMethods fixed = .ok methods
  urls : a.urls = .ok urls

/-- One annotation is the general one for what a short one says: it has the same URL argument
and names the HTTP method, alone or as the only element of an array. -/
structure GeneralForm (short general : AnnotationUse) : Prop where
  name : general.name = Marker.requestMapping
  url : general.urlArgument = short.urlArgument
  method : ∃ httpMethod qualifier, short.marker? = some (.route (some httpMethod)) ∧
    (general.argument "method" = .constant qualifier httpMethod ∨
      general.argument "method" = .list [.constant qualifier httpMethod])

/-- One annotation is another one with its argument `path` renamed to `value`, which the other
one has not. -/
structure PathRenamed (a renamed : AnnotationUse) : Prop where
  name : renamed.name = a.name
  noValue : a.argument "value" = .absent
  value : renamed.argument "value" = a.argument "path"
  noPath : renamed.argument "path" = .absent
  others : ∀ name : Text, name ≠ "value" → name ≠ "path" →
    renamed.argument name = a.argument name

/-- Short annotations, one for each HTTP method, for what a general one without an HTTP method
says. -/
structure SpelledOut (general : AnnotationUse) (short : List AnnotationUse) : Prop where
  name : general.name = Marker.requestMapping
  noMethod : general.argument "method" = .absent
  each : List.Forall₂ (fun b name => b.name = name ∧ b.urlArgument = general.urlArgument) short
    Marker.shortNames

variable {a b : AnnotationUse} {urls methods : List Text}

theorem StandsFor.routeEndpoints_eq (h : a.StandsFor urls methods) (guards : Guards) :
    a.routeEndpoints guards =
      urls.flatMap fun url => methods.map fun method => ⟨url, method, guards⟩ := by
  obtain ⟨fixed, hMarker, hMethods⟩ := h.marker
  simp only [routeEndpoints, hMarker, h.urls, hMethods]

theorem StandsFor.routeProblem?_eq (h : a.StandsFor urls methods) : a.routeProblem? = none := by
  obtain ⟨fixed, hMarker, hMethods⟩ := h.marker
  simp only [routeProblem?, hMarker, h.urls, hMethods]

theorem StandsFor.isRoute (h : a.StandsFor urls methods) : a.marks Marker.isRoute = true := by
  obtain ⟨fixed, hMarker, -⟩ := h.marker
  exact isRoute_of_marker hMarker

theorem StandsFor.not_isGuard (h : a.StandsFor urls methods) : ¬ a.marks Marker.isGuard := by
  obtain ⟨fixed, hMarker, -⟩ := h.marker
  exact not_isGuard_of_marker hMarker

theorem urls_congr (h : b.urlArgument = a.urlArgument) : b.urls = a.urls := by
  rw [AnnotationUse.urls, AnnotationUse.urls, h]

theorem marker?_of_requestMapping (h : a.name = Marker.requestMapping) :
    a.marker? = some (.route none) := by
  rw [marker?, h]
  decide

theorem StandsFor.generalForm (h : a.StandsFor urls methods) (hForm : a.GeneralForm b) :
    b.StandsFor urls methods := by
  obtain ⟨httpMethod, qualifier, hShort, hMethod⟩ := hForm.method
  obtain ⟨fixed, hMarker, hMethods⟩ := h.marker
  obtain rfl : fixed = some httpMethod := by simpa [hShort, eq_comm] using hMarker
  obtain rfl : [httpMethod] = methods := Except.ok.inj hMethods
  refine ⟨⟨none, marker?_of_requestMapping hForm.name, ?_⟩, (urls_congr hForm.url).trans h.urls⟩
  rcases hMethod with hBare | hArray
  · rw [httpMethods, hBare]
    rfl
  · rw [httpMethods, hArray]
    rfl

theorem StandsFor.pathRenamed (h : a.StandsFor urls methods) (hRenamed : a.PathRenamed b) :
    b.StandsFor urls methods := by
  have hUrl : b.urlArgument = a.urlArgument := by
    rw [urlArgument, urlArgument, hRenamed.noValue, hRenamed.value, hRenamed.noPath]
    cases a.argument "path" <;> rfl
  have hMethod : b.argument "method" = a.argument "method" :=
    hRenamed.others "method" (by decide) (by decide)
  obtain ⟨fixed, hMarker, hMethods⟩ := h.marker
  refine ⟨⟨fixed, ?_, ?_⟩, (urls_congr hUrl).trans h.urls⟩
  · rw [← hMarker, marker?, marker?, hRenamed.name]
  · rw [← hMethods]
    cases fixed with
    | some method => rfl
    | none => rw [httpMethods, httpMethods, hMethod]

/-- A general annotation without an HTTP method stands for all of them. -/
theorem StandsFor.methods_eq_default (h : a.StandsFor urls methods)
    (hName : a.name = Marker.requestMapping) (hMethod : a.argument "method" = .absent) :
    methods = defaultHttpMethods := by
  obtain ⟨fixed, hMarker, hMethods⟩ := h.marker
  obtain rfl : fixed = none := by simpa [marker?_of_requestMapping hName, eq_comm] using hMarker
  rw [httpMethods, hMethod] at hMethods
  exact (Except.ok.inj hMethods).symm

/-- The short annotations stand for one HTTP method each, in the order of the report. -/
theorem StandsFor.spelledOut {short : List AnnotationUse} (h : a.StandsFor urls methods)
    (hSpelled : a.SpelledOut short) :
    List.Forall₂ (fun b httpMethod => StandsFor b urls [httpMethod]) short defaultHttpMethods := by
  have hNamed : List.Forall₂
      (fun b marker => b.marker? = marker ∧ b.urlArgument = a.urlArgument) short
      (defaultHttpMethods.map fun httpMethod => some (.route (some httpMethod))) := by
    rw [← Marker.map_ofName?_shortNames, List.forall₂_map_right_iff]
    refine hSpelled.each.imp fun b name hShort => ⟨?_, hShort.2⟩
    rw [marker?, hShort.1]
  rw [List.forall₂_map_right_iff] at hNamed
  refine hNamed.imp fun b httpMethod hShort => ?_
  exact ⟨⟨some httpMethod, hShort.1, rfl⟩, (urls_congr hShort.2).trans h.urls⟩

/-- Annotations that stand for one HTTP method each write the endpoints method by method. -/
theorem flatMap_routeEndpoints_of_forall₂ {uses : List AnnotationUse}
    (h : List.Forall₂ (fun b httpMethod => StandsFor b urls [httpMethod]) uses methods)
    (guards : Guards) :
    uses.flatMap (routeEndpoints guards) =
      methods.flatMap fun method => urls.map fun url => ⟨url, method, guards⟩ := by
  induction h with
  | nil => rfl
  | cons hFirst _ ih =>
      rw [List.flatMap_cons, List.flatMap_cons, ih, hFirst.routeEndpoints_eq, List.map_eq_flatMap]
      rfl

end AnnotationUse

/-! ## Runs over two spellings -/

/-- Two runs hold the same endpoint under each key, give the same diagnostics in the same order
and count the same; their keys may be in another order. -/
structure Extraction.HoldsSame (run other : Extraction) : Prop where
  lookup : ∀ k, run.store.get? k = other.store.get? k
  diagnostics : run.diagnostics = other.diagnostics
  controllers : run.controllers = other.controllers
  handlerMethods : run.handlerMethods = other.handlerMethods

section Runs

variable {model : SourceModel} {i j : Nat} {c : AnnotatedClass} {m : AnnotatedMethod}
  {a : AnnotationUse} {front new back : List AnnotationUse} {urls methods : List Text}

/-- What the new annotations stand for, they stand for as routes in order. -/
theorem AnnotationUse.StandsFor.exchange (hUses : m.annotations = front ++ [a] ++ back)
    (h : a.StandsFor urls methods)
    (hNew : ∀ b ∈ new, ∃ urls methods, AnnotationUse.StandsFor b urls methods) :
    m.Exchange front [a] new back := by
  refine ⟨hUses, fun b hMem => ?_⟩
  rcases List.mem_append.1 hMem with hOld | hMem
  · obtain rfl := List.mem_singleton.1 hOld
    exact h.not_isGuard
  · obtain ⟨urls, methods, hStands⟩ := hNew b hMem
    exact hStands.not_isGuard

/-- Exchanging a route in order for others in order changes neither diagnostics nor counts. -/
theorem extract_exchange_routes (hAt : model.MethodAt i j c m)
    (hUses : m.annotations = front ++ [a] ++ back) (h : a.StandsFor urls methods)
    (hSome : new ≠ [])
    (hNew : ∀ b ∈ new, ∃ urls methods, AnnotationUse.StandsFor b urls methods)
    (store : EndpointStore) (diagnostics : List Diagnostic) :
    extract (model.withAnnotationsAt i j (front ++ new ++ back)) store diagnostics =
      { extract model store diagnostics with
        store := store.addAll
          (model.withAnnotationsAt i j (front ++ new ++ back)).emissions } := by
  have hExchange := h.exchange hUses hNew
  obtain ⟨first, hFirst⟩ := List.exists_mem_of_ne_nil new hSome
  obtain ⟨urls', methods', hFirstStands⟩ := hNew first hFirst
  have hHandler : (m.withAnnotations (front ++ new ++ back)).hasAny Marker.routeNames =
      m.hasAny Marker.routeNames := by
    have hOldMem : a ∈ m.annotations := by simp [hUses]
    have hNewMem : first ∈ (m.withAnnotations (front ++ new ++ back)).annotations := by
      simp [AnnotatedMethod.withAnnotations, hFirst]
    rw [AnnotatedMethod.hasAny_routeNames_of_mem hOldMem h.isRoute,
      AnnotatedMethod.hasAny_routeNames_of_mem hNewMem hFirstStands.isRoute]
  have hProblems : (m.withAnnotations (front ++ new ++ back)).problems = m.problems := by
    have hNone : new.filterMap AnnotationUse.routeProblem? = [] := by
      refine List.filterMap_eq_nil_iff.2 fun b hMem => ?_
      obtain ⟨urls, methods, hStands⟩ := hNew b hMem
      exact hStands.routeProblem?_eq
    obtain ⟨before, after, hOld, hNew⟩ := hExchange.exists_problems
    rw [hOld, hNew, hNone, List.filterMap_cons_none h.routeProblem?_eq, List.filterMap_nil]
  rw [extract_eq, extract_eq, SourceModel.problems_withAnnotationsAt hAt hProblems,
    SourceModel.length_controllers_withAnnotationsAt hAt.cls,
    SourceModel.length_countedHandlers_withAnnotationsAt hAt hHandler]

/-- An annotation that stands for the same may take the place of another one. -/
theorem extract_exchange_one {b : AnnotationUse} (hAt : model.MethodAt i j c m)
    (hUses : m.annotations = front ++ [a] ++ back) (h : a.StandsFor urls methods)
    (hOther : b.StandsFor urls methods) (store : EndpointStore) (diagnostics : List Diagnostic) :
    extract (model.withAnnotationsAt i j (front ++ [b] ++ back)) store diagnostics =
      extract model store diagnostics := by
  have hNew : ∀ b' ∈ [b], ∃ urls methods, AnnotationUse.StandsFor b' urls methods := by
    intro b' hMem
    obtain rfl := List.mem_singleton.1 hMem
    exact ⟨urls, methods, hOther⟩
  have hEmissions := SourceModel.emissions_exchange hAt (h.exchange hUses hNew) (fun guards => by
    rw [List.flatMap_singleton, List.flatMap_singleton, h.routeEndpoints_eq,
      hOther.routeEndpoints_eq])
  rw [extract_exchange_routes hAt hUses h (List.cons_ne_nil b []) hNew, hEmissions, extract_eq]

/-- Short annotations for all HTTP methods may take the place of a general one: with a given
key they write the same as often, in the order of the HTTP methods and not of the URLs. -/
theorem extract_exchange_spelledOut (hAt : model.MethodAt i j c m)
    (hUses : m.annotations = front ++ [a] ++ back) (h : a.StandsFor urls defaultHttpMethods)
    (hEach : List.Forall₂ (fun b httpMethod => AnnotationUse.StandsFor b urls [httpMethod]) new
      defaultHttpMethods) (store : EndpointStore) (diagnostics : List Diagnostic) :
    (extract (model.withAnnotationsAt i j (front ++ new ++ back)) store diagnostics).HoldsSame
      (extract model store diagnostics) := by
  have hStands : ∀ b ∈ new, ∃ urls methods, AnnotationUse.StandsFor b urls methods := by
    have hBoth : List.Forall₂ (fun b httpMethod =>
        (∃ urls methods, AnnotationUse.StandsFor b urls methods) ∧
          AnnotationUse.StandsFor b urls [httpMethod]) new defaultHttpMethods :=
      hEach.imp fun b httpMethod hShort => ⟨⟨urls, [httpMethod], hShort⟩, hShort⟩
    exact ((List.forall₂_and_left new defaultHttpMethods).1 hBoth).1
  have hSome : new ≠ [] := by
    rintro rfl
    cases hEach
  have hFilter (k : Text) := SourceModel.filter_emissions_exchange
    (fun e => decide (e.key = k)) hAt (h.exchange hUses hStands) (fun before guards => by
      rw [AnnotationUse.flatMap_routeEndpoints_of_forall₂ hEach, List.flatMap_singleton,
        h.routeEndpoints_eq]
      exact filter_key_eq before guards urls k)
  rw [extract_exchange_routes hAt hUses h hSome hStands]
  constructor
  case lookup =>
    intro k
    rw [extract_eq, EndpointStore.get?_addAll, EndpointStore.get?_addAll, hFilter]
  case diagnostics => rfl
  case controllers => rfl
  case handlerMethods => rfl

/-- The spellings of a mapping are equivalent.  On a method of any class, let one annotation be
a route with its arguments in order.  The general form of a short annotation may stand in its
place, and so may the annotation with its argument `path` renamed to `value`: the run is the
same.  For a general annotation without an HTTP method the short ones for all HTTP methods may
stand in its place: the run holds, reports and counts the same. -/
theorem extract_respelled (hAt : model.MethodAt i j c m)
    (hUses : m.annotations = front ++ [a] ++ back) (hResolved : a.StandsFor urls methods)
    (store : EndpointStore) (diagnostics : List Diagnostic) :
    (∀ b, a.GeneralForm b →
      extract (model.withAnnotationsAt i j (front ++ [b] ++ back)) store diagnostics =
        extract model store diagnostics) ∧
    (∀ b, a.PathRenamed b →
      extract (model.withAnnotationsAt i j (front ++ [b] ++ back)) store diagnostics =
        extract model store diagnostics) ∧
    ∀ short, a.SpelledOut short →
      (extract (model.withAnnotationsAt i j (front ++ short ++ back)) store diagnostics).HoldsSame
        (extract model store diagnostics) := by
  refine ⟨fun b hForm => ?_, fun b hRenamed => ?_, fun short hSpelled => ?_⟩
  · exact extract_exchange_one hAt hUses hResolved (hResolved.generalForm hForm) store diagnostics
  · exact extract_exchange_one hAt hUses hResolved (hResolved.pathRenamed hRenamed) store
      diagnostics
  · have hEach := hResolved.spelledOut hSpelled
    obtain rfl := hResolved.methods_eq_default hSpelled.name hSpelled.noMethod
    exact extract_exchange_spelledOut hAt hUses hResolved hEach store diagnostics

end Runs

/-- An annotation of a shop with several arguments. -/
def shopRoute (name : Text) (arguments : List (Text × ArgumentValue)) : AnnotationUse :=
  ⟨name, name, "shop", .ofList arguments⟩

/-- A short annotation, a guard, and a general annotation for all HTTP methods with two URLs
that are the same below a prefix. -/
def shopCounter : AnnotatedMethod :=
  ⟨"serve", "serve()", "Counter",
    [shopRoute "GetMapping" [("path", .literal "open")],
      shopRoute "PreAuthorize" [("value", .literal "clerk")],
      shopRoute "RequestMapping" [("value", .list [.literal "sell", .literal "/sell"])]]⟩

/-- The counter in a controller with a prefix. -/
def shopCounterModel : SourceModel :=
  [⟨"Counter", "Counter.java",
    [shopRoute "RestController" [], shopRoute "RequestMapping" [("value", .literal "/shop")]],
    [shopCounter]⟩]

/-- Short annotations for all HTTP methods with the URLs of the general one. -/
def shopSpelledOut : List AnnotationUse :=
  Marker.shortNames.map fun name =>
    shopRoute name [("value", .list [.literal "sell", .literal "/sell"])]

theorem shopCounter_respelled :
    extract (shopCounterModel.withAnnotationsAt 0 0
        ([] ++ [shopRoute "RequestMapping"
          [("path", .literal "open"), ("method", .list [.constant "RequestMethod" "GET"])]] ++
            shopCounter.annotations.drop 1)) .empty [] = extract shopCounterModel .empty [] ∧
      extract (shopCounterModel.withAnnotationsAt 0 0
        ([] ++ [shopRoute "GetMapping" [("value", .literal "open")]] ++
          shopCounter.annotations.drop 1)) .empty [] = extract shopCounterModel .empty [] ∧
      (extract (shopCounterModel.withAnnotationsAt 0 0
        (shopCounter.annotations.take 2 ++ shopSpelledOut ++ [])) .empty []).HoldsSame
          (extract shopCounterModel .empty []) := by
  have hAt : shopCounterModel.MethodAt 0 0 _ shopCounter := ⟨rfl, rfl⟩
  have hFirst : shopCounter.annotations =
      [] ++ [shopRoute "GetMapping" [("path", .literal "open")]] ++
        shopCounter.annotations.drop 1 := rfl
  have hLast : shopCounter.annotations =
      shopCounter.annotations.take 2 ++ [shopRoute "RequestMapping"
        [("value", .list [.literal "sell", .literal "/sell"])]] ++ [] := rfl
  obtain ⟨hGeneral, hRenamed, -⟩ := extract_respelled hAt hFirst
    ⟨⟨some "GET", by decide, rfl⟩, rfl⟩ .empty []
  obtain ⟨-, -, hSpelledOut⟩ := extract_respelled hAt hLast
    ⟨⟨none, by decide, rfl⟩, rfl⟩ .empty []
  refine ⟨hGeneral _ ⟨rfl, rfl, "GET", "RequestMethod", by decide, .inr rfl⟩,
    hRenamed _ ⟨rfl, rfl, rfl, rfl, ?_⟩, hSpelledOut _ ⟨rfl, rfl, ?_⟩⟩
  · intro name hValue hPath
    simp [AnnotationUse.argument, shopRoute, OrderedMap.get?_ofList, OrderedMap.lastValue?,
      hValue, hPath, eq_comm]
  · rw [shopSpelledOut, List.forall₂_map_left_iff, List.forall₂_same]
    exact fun name _ => ⟨rfl, rfl⟩

end SpringAudit

import SpringAudit.Proofs.Endpoint.Emission
import SpringAudit.Proofs.Source.Marker

/-!
# What a run looks at

Most of a source tree has no meaning for routes and guards.  The essential part of a
model is what is left without it: the controllers, with their markers and their first
mapping, and the handlers, with their routes and guards, and of all these annotations
only the arguments that are read.  A run over the essential part gives the same store,
the same diagnostics and the same counts (`extract_essential`).

What an annotation means is decided here by its marker throughout.  The run selects
classes and methods by sets of names and a mapping by its single name, and the proof
has to bring all of these together.
-/

namespace SpringAudit

/-! ## The essential part -/

/-- The arguments that are read of an annotation on a method: of a route the URL and, unless the
marker fixes it, the HTTP method; of a guard the expression.  A controller marker is not read
there at all. -/
def Marker.readArguments? : Marker → Option (List Text)
  | route none => some ["value", "path", "method"]
  | route (some _) => some ["value", "path"]
  | guard _ => some ["value"]
  | controller => none

namespace AnnotationUse

/-- The annotation without the arguments of other names than those given. -/
def withOnly (names : List Text) (a : AnnotationUse) : AnnotationUse :=
  { a with arguments := a.arguments.restrict fun name => names.contains name }

/-- What counts of an annotation on a method, if anything. -/
def essential? (a : AnnotationUse) : Option AnnotationUse :=
  (a.marker?.bind Marker.readArguments?).map fun names => a.withOnly names

/-- A controller marker without its arguments. -/
def controllerMark? (a : AnnotationUse) : Option AnnotationUse :=
  if a.marks Marker.isController then some (a.withOnly []) else none

end AnnotationUse

namespace AnnotatedMethod

/-- Whether some annotation marks a route. -/
def declaresRoute (m : AnnotatedMethod) : Bool :=
  m.annotations.any (·.marks Marker.isRoute)

/-- The method with what counts of its annotations. -/
def essential (m : AnnotatedMethod) : AnnotatedMethod :=
  { m with annotations := m.annotations.filterMap AnnotationUse.essential? }

end AnnotatedMethod

namespace AnnotatedClass

/-- What counts of the annotations on a class: the controller markers and the first mapping,
of which only the URL is read. -/
def essentialAnnotations : List AnnotationUse → List AnnotationUse
  | [] => []
  | a :: rest =>
    if a.name = Marker.requestMapping then
      a.withOnly ["value", "path"] :: rest.filterMap AnnotationUse.controllerMark?
    else
      a.controllerMark?.toList ++ essentialAnnotations rest

/-- The class with what counts of its annotations and its methods. -/
def essential (c : AnnotatedClass) : AnnotatedClass :=
  { c with
    annotations := essentialAnnotations c.annotations
    methods := (c.methods.filter AnnotatedMethod.declaresRoute).map AnnotatedMethod.essential }

end AnnotatedClass

/-- The part of a model that has a meaning for routes and guards. -/
def SourceModel.essential (model : SourceModel) : SourceModel :=
  (model.filter fun c => c.annotations.any (·.marks Marker.isController)).map
    AnnotatedClass.essential

/-! ## One annotation -/

/-- What is read of a route gives its URLs, and its HTTP methods too if no marker does. -/
theorem Marker.readArguments?_route (fixed : Option Text) :
    ∃ names, readArguments? (.route fixed) = some names ∧ names.contains "value" = true ∧
      names.contains "path" = true ∧ (fixed = none → names.contains "method" = true) := by
  cases fixed with
  | none => exact ⟨_, rfl, by decide, by decide, fun _ => by decide⟩
  | some method => exact ⟨_, rfl, by decide, by decide, nofun⟩

namespace AnnotationUse

variable {names : List Text} (a : AnnotationUse)

/-- An argument that is kept has the same value. -/
theorem argument_withOnly {name : Text} (hKept : names.contains name = true) :
    (a.withOnly names).argument name = a.argument name := by
  simp only [argument, withOnly, OrderedMap.get?_restrict, if_pos hKept]

theorem urls_withOnly (hValue : names.contains "value" = true)
    (hPath : names.contains "path" = true) : (a.withOnly names).urls = a.urls := by
  simp only [urls, urlArgument, argument_withOnly a hValue, argument_withOnly a hPath]

/-- The HTTP methods stay unless they are read from an argument that is not kept. -/
theorem httpMethods_withOnly {fixed : Option Text}
    (hMethod : fixed = none → names.contains "method" = true) :
    (a.withOnly names).httpMethods fixed = a.httpMethods fixed := by
  cases fixed with
  | some method => rfl
  | none => simp only [httpMethods, argument_withOnly a (hMethod rfl)]

/-- A route reduced to its arguments stands for the same endpoints and the same problem. -/
theorem route_withOnly {fixed : Option Text} (guards : Guards)
    (hMarker : a.marker? = some (.route fixed)) (hValue : names.contains "value" = true)
    (hPath : names.contains "path" = true)
    (hMethod : fixed = none → names.contains "method" = true) :
    (a.withOnly names).routeEndpoints guards = a.routeEndpoints guards ∧
      (a.withOnly names).routeProblem? = a.routeProblem? := by
  have hMarker' : (a.withOnly names).marker? = some (.route fixed) := hMarker
  have hPlace (e : ResolutionError) : e.diagnostic (a.withOnly names) = e.diagnostic a := rfl
  simp only [routeEndpoints, routeProblem?, hMarker, hMarker', urls_withOnly a hValue hPath,
    httpMethods_withOnly a hMethod, hPlace]
  exact ⟨trivial, trivial⟩

/-- What counts of an annotation contributes what the annotation does. -/
theorem essential?_contributes (guards : Guards) :
    a.essential?.toList.flatMap (routeEndpoints guards) = a.routeEndpoints guards ∧
      a.essential?.bind routeProblem? = a.routeProblem? ∧
      a.essential?.bind guard? = a.guard? := by
  unfold essential?
  cases hMarker : a.marker? with
  | none => simp [routeEndpoints, routeProblem?, guard?, hMarker]
  | some marker =>
      cases marker with
      | controller =>
          simp [Marker.readArguments?, routeEndpoints, routeProblem?, guard?, hMarker]
      | guard kind =>
          have hMarker' : (a.withOnly ["value"]).marker? = some (.guard kind) := hMarker
          have hValue : (a.withOnly ["value"]).argument "value" = a.argument "value" :=
            a.argument_withOnly (by decide)
          simp [Marker.readArguments?, routeEndpoints, routeProblem?, guard?, hMarker, hMarker',
            hValue]
      | route fixed =>
          obtain ⟨names, hRead, hValue, hPath, hMethod⟩ := Marker.readArguments?_route fixed
          obtain ⟨hEndpoints, hProblem⟩ := a.route_withOnly guards hMarker hValue hPath hMethod
          have hMarker' : (a.withOnly names).marker? = some (.route fixed) := hMarker
          simp [hRead, hEndpoints, hProblem, guard?, hMarker, hMarker']

/-- Reducing an annotation leaves its marker. -/
theorem marks_of_essential? {a b : AnnotationUse} (h : a.essential? = some b)
    (isKind : Marker → Bool) : b.marks isKind = a.marks isKind := by
  obtain ⟨names, -, rfl⟩ := Option.map_eq_some_iff.1 h
  rfl

/-- Routes are among what counts. -/
theorem exists_essential?_of_marks (h : a.marks Marker.isRoute = true) :
    ∃ b, a.essential? = some b := by
  obtain ⟨marker, hMarker, hRoute⟩ := (Option.any_eq_true _ _).1 h
  cases marker with
  | controller => cases hRoute
  | guard kind => cases hRoute
  | route fixed =>
      obtain ⟨names, hRead, -⟩ := Marker.readArguments?_route fixed
      exact ⟨a.withOnly names, by rw [essential?, hMarker, Option.bind_some, hRead]; rfl⟩

end AnnotationUse

/-! ## One method -/

/-- What the kept elements of a list contribute, if none of them changes what it contributes. -/
theorem flatMap_filterMap_of_forall {α β : Type} {keep? : α → Option α} {f : α → List β}
    (h : ∀ a, (keep? a).toList.flatMap f = f a) (l : List α) :
    (l.filterMap keep?).flatMap f = l.flatMap f := by
  rw [List.filterMap_eq_flatMap_toList, List.flatMap_assoc]
  simp only [h]

namespace AnnotatedMethod

theorem guards_essential (m : AnnotatedMethod) : m.essential.guards = m.guards := by
  have hGuard : (fun a => a.essential?.bind AnnotationUse.guard?) = AnnotationUse.guard? := by
    funext a
    exact (a.essential?_contributes m.guards).2.2
  simp only [guards, guardTable, essential, List.filterMap_filterMap, hGuard]

theorem endpoints_essential (m : AnnotatedMethod) : m.essential.endpoints = m.endpoints := by
  rw [endpoints_eq, endpoints_eq, ← guards_eq_lastGuards, ← guards_eq_lastGuards,
    guards_essential]
  exact flatMap_filterMap_of_forall (fun a => (a.essential?_contributes m.guards).1) m.annotations

theorem problems_essential (m : AnnotatedMethod) : m.essential.problems = m.problems := by
  have hProblem : (fun a => a.essential?.bind AnnotationUse.routeProblem?) =
      AnnotationUse.routeProblem? := by
    funext a
    exact (a.essential?_contributes m.guards).2.1
  rw [problems_eq, problems_eq, essential, List.filterMap_filterMap, hProblem]

/-- A handler remains a handler, and no method becomes one. -/
theorem declaresRoute_essential (m : AnnotatedMethod) :
    m.essential.declaresRoute = m.declaresRoute := by
  rw [Bool.eq_iff_iff, declaresRoute, declaresRoute, List.any_eq_true, List.any_eq_true]
  constructor
  · rintro ⟨b, hB, hMarks⟩
    obtain ⟨a, hA, hKept⟩ := List.mem_filterMap.1 hB
    exact ⟨a, hA, (AnnotationUse.marks_of_essential? hKept _).symm.trans hMarks⟩
  · rintro ⟨a, hA, hMarks⟩
    obtain ⟨b, hKept⟩ := a.exists_essential?_of_marks hMarks
    exact ⟨b, List.mem_filterMap.2 ⟨a, hA, hKept⟩,
      (AnnotationUse.marks_of_essential? hKept _).trans hMarks⟩

end AnnotatedMethod

/-! ## One class -/

namespace AnnotatedClass

/-- The handlers of a class are its methods that declare a route. -/
theorem handlers_eq (c : AnnotatedClass) :
    c.handlers = c.methods.filter AnnotatedMethod.declaresRoute := by
  have hSame : (fun m : AnnotatedMethod => m.hasAny Marker.routeNames) =
      AnnotatedMethod.declaresRoute := by
    funext m
    exact m.hasAny_routeNames
  rw [handlers, methodsWithAny, hSame]

theorem handlers_essential (c : AnnotatedClass) :
    c.essential.handlers = c.handlers.map AnnotatedMethod.essential := by
  rw [handlers_eq, handlers_eq, essential, List.filter_map]
  simp [Function.comp_def, AnnotatedMethod.declaresRoute_essential, List.filter_filter]

/-- The mapping of a class is kept with its URLs, and no other annotation takes its place. -/
theorem find?_essentialAnnotations (annotations : List AnnotationUse) :
    (essentialAnnotations annotations).find? (fun a => decide (a.name = Marker.requestMapping)) =
      (annotations.find? fun a => decide (a.name = Marker.requestMapping)).map
        (·.withOnly ["value", "path"]) := by
  induction annotations with
  | nil => rfl
  | cons a rest ih =>
      -- Up to the first mapping only controller markers are kept, and none of them is a mapping.
      rw [essentialAnnotations, List.find?_cons]
      by_cases hName : a.name = Marker.requestMapping
      · rw [if_pos hName]
        simp [hName, AnnotationUse.withOnly]
      · have hMark : (a.controllerMark?.toList.find?
            fun b => decide (b.name = Marker.requestMapping)) = none := by
          unfold AnnotationUse.controllerMark?
          by_cases hMarks : a.marks Marker.isController
          · simp [hMarks, AnnotationUse.withOnly, hName]
          · simp [hMarks]
        rw [if_neg hName, List.find?_append, hMark, Option.none_or, ih]
        simp [hName]

theorem prefixes_essential (c : AnnotatedClass) : c.essential.prefixes = c.prefixes := by
  unfold prefixes annotation?
  rw [essential, find?_essentialAnnotations]
  cases c.annotations.find? fun a => decide (a.name = Marker.requestMapping) with
  | none => rfl
  | some a =>
      have hUrls : (a.withOnly ["value", "path"]).urls = a.urls :=
        a.urls_withOnly (by decide) (by decide)
      simp only [Option.map_some, hUrls]
      rfl

/-- The markers of a controller are all kept. -/
theorem any_essentialAnnotations (annotations : List AnnotationUse) :
    (essentialAnnotations annotations).any (·.marks Marker.isController) =
      annotations.any (·.marks Marker.isController) := by
  have hMark (a : AnnotationUse) : (a.controllerMark?.toList.any
      (·.marks Marker.isController)) = a.marks Marker.isController := by
    unfold AnnotationUse.controllerMark?
    by_cases hMarks : a.marks Marker.isController
    · have hMarks' : (a.withOnly []).marks Marker.isController = true := hMarks
      simp [hMarks, hMarks']
    · simp [hMarks]
  induction annotations with
  | nil => rfl
  | cons a rest ih =>
      rw [essentialAnnotations]
      by_cases hName : a.name = Marker.requestMapping
      · rw [if_pos hName, List.any_cons, List.any_cons, List.filterMap_eq_flatMap_toList,
          List.any_flatMap]
        simp only [hMark]
        rfl
      · rw [if_neg hName, List.any_append, List.any_cons, hMark, ih]

theorem isController_essential (c : AnnotatedClass) :
    c.essential.isController = c.isController := by
  rw [isController_eq, isController_eq]
  exact any_essentialAnnotations c.annotations

theorem emissions_essential (c : AnnotatedClass) : c.essential.emissions = c.emissions := by
  cases hPrefixes : c.prefixes with
  | error problem => simp only [emissions, prefixes_essential, hPrefixes]
  | ok found =>
      have hPrefixes' := c.prefixes_essential.trans hPrefixes
      rw [emissions_eq_of_prefixes hPrefixes, emissions_eq_of_prefixes hPrefixes',
        handlers_essential, List.map_map]
      simp only [Function.comp_def, AnnotatedMethod.endpoints_essential]

theorem problems_essential (c : AnnotatedClass) : c.essential.problems = c.problems := by
  cases hPrefixes : c.prefixes with
  | error problem => simp only [problems, prefixes_essential, hPrefixes]
  | ok found =>
      have hPrefixes' := c.prefixes_essential.trans hPrefixes
      rw [problems_eq_of_prefixes hPrefixes, problems_eq_of_prefixes hPrefixes',
        handlers_essential, List.flatMap_map]
      simp only [AnnotatedMethod.problems_essential]

theorem countedHandlers_essential (c : AnnotatedClass) :
    c.essential.countedHandlers = c.countedHandlers.map AnnotatedMethod.essential := by
  unfold countedHandlers
  rw [prefixes_essential]
  cases c.prefixes with
  | error problem => rfl
  | ok found => exact c.handlers_essential

end AnnotatedClass

/-! ## A whole run -/

theorem SourceModel.controllers_essential (model : SourceModel) :
    model.essential.controllers = model.controllers.map AnnotatedClass.essential := by
  have hSame : (fun c : AnnotatedClass => c.annotations.any (·.marks Marker.isController)) =
      AnnotatedClass.isController := by
    funext c
    exact c.isController_eq.symm
  rw [controllers, controllers, essential, hSame, List.filter_map]
  simp [Function.comp_def, AnnotatedClass.isController_essential, List.filter_filter]

/-- What has no meaning for routes and guards has no influence: a run over the essential part
of a model gives the same store, the same diagnostics and the same counts. -/
theorem extract_essential (model : SourceModel) (store : EndpointStore)
    (diagnostics : List Diagnostic) :
    extract model.essential store diagnostics = extract model store diagnostics := by
  rw [extract_eq, extract_eq]
  simp only [SourceModel.emissions, SourceModel.problems, SourceModel.countedHandlers,
    SourceModel.controllers_essential, List.flatMap_map, List.length_map,
    AnnotatedClass.emissions_essential, AnnotatedClass.problems_essential,
    AnnotatedClass.countedHandlers_essential, List.length_flatMap]

end SpringAudit

import SpringAudit.Proofs.Endpoint.Emission

/-!
# Exchanging annotations of one method

Some consecutive annotations of one method are exchanged for others, and everything
else in the model stays.  If neither the old ones nor the new ones are guards, the
method keeps its guards, and what the exchange changes in a run is only what these
annotations contribute themselves.

* `SourceModel.filter_emissions_exchange`: if the old and the new annotations write
  the same as far as a filter lets through, so do the two runs.
* `SourceModel.problems_exchange`: their diagnostics stand at the same place among
  those of the run.

The statements about emissions and counts hold for the methods of any class; where
the class is no controller, or has no known prefix, there is nothing to exchange.
-/

namespace SpringAudit

/-! ## Changing one element of a list -/

section Modify

variable {α β : Type} {change : α → α} {l : List α} {i : Nat} {a : α}

theorem eq_take_cons_drop (hAt : l[i]? = some a) : l = l.take i ++ a :: l.drop (i + 1) := by
  obtain ⟨hLess, rfl⟩ := List.getElem?_eq_some_iff.1 hAt
  rw [← List.drop_eq_getElem_cons hLess, List.take_append_drop]

theorem modify_eq_take_cons_drop (hAt : l[i]? = some a) :
    l.modify i change = l.take i ++ change a :: l.drop (i + 1) := by
  obtain ⟨hLess, rfl⟩ := List.getElem?_eq_some_iff.1 hAt
  exact List.modify_eq_take_cons_drop hLess

/-- What is read off the elements that pass a test does not change if it does not change for
the element at the place. -/
theorem map_filter_modify {keep : α → Bool} {f : α → β} (hAt : l[i]? = some a)
    (hKeep : keep (change a) = keep a) (hSame : f (change a) = f a) :
    ((l.modify i change).filter keep).map f = (l.filter keep).map f := by
  rw [modify_eq_take_cons_drop hAt]
  conv_rhs => rw [eq_take_cons_drop hAt]
  rw [List.filter_append, List.filter_append, List.filter_cons, List.filter_cons, hKeep]
  split
  · rw [List.map_append, List.map_append, List.map_cons, List.map_cons, hSame]
  · rfl

/-- What the elements before and after the place contribute is there for any change. -/
theorem exists_flatMap_modify (f : α → List β) (hAt : l[i]? = some a) :
    ∃ before after, l.flatMap f = before ++ f a ++ after ∧
      ∀ change, (l.modify i change).flatMap f = before ++ f (change a) ++ after := by
  refine ⟨(l.take i).flatMap f, (l.drop (i + 1)).flatMap f, ?_, fun change => ?_⟩
  · conv_lhs => rw [eq_take_cons_drop hAt]
    rw [List.flatMap_append, List.flatMap_cons, List.append_assoc]
  · rw [modify_eq_take_cons_drop hAt, List.flatMap_append, List.flatMap_cons, List.append_assoc]

end Modify

/-! ## One method with other annotations -/

/-- The method with other annotations. -/
def AnnotatedMethod.withAnnotations (annotations : List AnnotationUse) (m : AnnotatedMethod) :
    AnnotatedMethod :=
  { m with annotations := annotations }

/-- The class with other annotations on the method at a place. -/
def AnnotatedClass.withAnnotationsAt (j : Nat) (annotations : List AnnotationUse)
    (c : AnnotatedClass) : AnnotatedClass :=
  { c with methods := c.methods.modify j (AnnotatedMethod.withAnnotations annotations) }

namespace SourceModel

/-- The model with other annotations on the method at a place. -/
def withAnnotationsAt (i j : Nat) (annotations : List AnnotationUse) (model : SourceModel) :
    SourceModel :=
  model.modify i (AnnotatedClass.withAnnotationsAt j annotations)

/-- A method of a model: its place and the class that it stands in. -/
structure MethodAt (model : SourceModel) (i j : Nat) (c : AnnotatedClass)
    (m : AnnotatedMethod) : Prop where
  cls : model[i]? = some c
  method : c.methods[j]? = some m

end SourceModel

/-! ## Routes -/

theorem AnnotationUse.isRoute_of_marker {a : AnnotationUse} {fixed : Option Text}
    (hMarker : a.marker? = some (.route fixed)) : a.marks Marker.isRoute = true := by
  rw [marks, hMarker]
  rfl

/-- A route is no guard. -/
theorem AnnotationUse.not_isGuard_of_marker {a : AnnotationUse} {fixed : Option Text}
    (hMarker : a.marker? = some (.route fixed)) : ¬ a.marks Marker.isGuard := by
  rw [marks, hMarker]
  exact Bool.false_ne_true

/-- A method with a route is a handler. -/
theorem AnnotatedMethod.hasAny_routeNames_of_mem {m : AnnotatedMethod} {a : AnnotationUse}
    (hMem : a ∈ m.annotations) (hRoute : a.marks Marker.isRoute = true) :
    m.hasAny Marker.routeNames = true := by
  rw [AnnotatedMethod.hasAny_routeNames]
  exact List.any_eq_true.2 ⟨a, hMem, hRoute⟩

/-! ## Exchanges in one method -/

/-- Old annotations, and new ones in their place, between the others of a method.  None of them
is a guard. -/
structure AnnotatedMethod.Exchange (m : AnnotatedMethod)
    (front old new back : List AnnotationUse) : Prop where
  annotations : m.annotations = front ++ old ++ back
  noGuard : ∀ a ∈ old ++ new, ¬ a.marks Marker.isGuard

namespace AnnotatedMethod.Exchange

variable {m : AnnotatedMethod} {front old new back : List AnnotationUse}

theorem guards_eq (h : m.Exchange front old new back) :
    (m.withAnnotations (front ++ new ++ back)).guards = m.guards := by
  have hNone (a : AnnotationUse) (hMem : a ∈ old ++ new) : a.guard? = none := by
    have hNoGuard := h.noGuard a hMem
    unfold AnnotationUse.guard?
    split
    · next kind hMarker =>
        rw [AnnotationUse.marks, hMarker] at hNoGuard
        exact absurd rfl hNoGuard
    · rfl
  have hOld : old.filterMap AnnotationUse.guard? = [] :=
    List.filterMap_eq_nil_iff.2 fun a ha => hNone a (List.mem_append_left new ha)
  have hNew : new.filterMap AnnotationUse.guard? = [] :=
    List.filterMap_eq_nil_iff.2 fun a ha => hNone a (List.mem_append_right old ha)
  simp only [guards, guardTable, withAnnotations, h.annotations, List.filterMap_append, hOld, hNew]

/-- The endpoints of the method, with the part that is exchanged between the others. -/
theorem exists_endpoints (h : m.Exchange front old new back) :
    ∃ first last, m.endpoints =
        first ++ old.flatMap (AnnotationUse.routeEndpoints m.guards) ++ last ∧
      (m.withAnnotations (front ++ new ++ back)).endpoints =
        first ++ new.flatMap (AnnotationUse.routeEndpoints m.guards) ++ last := by
  refine ⟨front.flatMap (AnnotationUse.routeEndpoints m.guards),
    back.flatMap (AnnotationUse.routeEndpoints m.guards), ?_, ?_⟩
  · rw [endpoints_eq, ← guards_eq_lastGuards, h.annotations, List.flatMap_append,
      List.flatMap_append]
  · rw [endpoints_eq, ← guards_eq_lastGuards, h.guards_eq, withAnnotations, List.flatMap_append,
      List.flatMap_append]

/-- The problems of the method, with the part that is exchanged between the others. -/
theorem exists_problems (h : m.Exchange front old new back) :
    ∃ first last, m.problems = first ++ old.filterMap AnnotationUse.routeProblem? ++ last ∧
      (m.withAnnotations (front ++ new ++ back)).problems =
        first ++ new.filterMap AnnotationUse.routeProblem? ++ last := by
  refine ⟨front.filterMap AnnotationUse.routeProblem?, back.filterMap AnnotationUse.routeProblem?,
    ?_, ?_⟩
  · rw [problems_eq, h.annotations, List.filterMap_append, List.filterMap_append]
  · rw [problems_eq, withAnnotations, List.filterMap_append, List.filterMap_append]

end AnnotatedMethod.Exchange

/-! ## One class -/

namespace AnnotatedClass

variable {c : AnnotatedClass} {j : Nat} {m : AnnotatedMethod} {annotations : List AnnotationUse}

theorem emissions_eq_flatMap_of_prefixes {found : List Text} (h : c.prefixes = .ok found) :
    c.emissions = found.flatMap fun before =>
      c.methods.flatMap fun m => m.endpoints.map (Endpoint.below before) := by
  simp only [emissions, h, AnnotatedMethod.flatMap_emissionsBelow]

theorem problems_eq_flatMap_of_prefixes {found : List Text} (h : c.prefixes = .ok found) :
    c.problems = c.methods.flatMap AnnotatedMethod.problems := by
  simp only [problems, h, ← AnnotatedMethod.problems_eq]

/-- The mapping of a class does not stand on its methods. -/
theorem prefixes_withAnnotationsAt (j : Nat) (annotations : List AnnotationUse)
    (c : AnnotatedClass) : (c.withAnnotationsAt j annotations).prefixes = c.prefixes :=
  rfl

/-- A filter sees no difference in a class if it sees none in the method. -/
theorem filter_emissions_withAnnotationsAt {keep : Endpoint → Bool}
    (hMethod : c.methods[j]? = some m)
    (hSame : ∀ before,
      ((m.withAnnotations annotations).endpoints.map (Endpoint.below before)).filter keep =
        (m.endpoints.map (Endpoint.below before)).filter keep) :
    (c.withAnnotationsAt j annotations).emissions.filter keep = c.emissions.filter keep := by
  have hPrefixes := prefixes_withAnnotationsAt j annotations c
  cases hFound : c.prefixes with
  | error problem => simp only [emissions, hPrefixes, hFound]
  | ok found =>
      rw [emissions_eq_flatMap_of_prefixes hFound,
        emissions_eq_flatMap_of_prefixes (hPrefixes.trans hFound)]
      simp only [List.filter_flatMap]
      congr 1
      funext before
      obtain ⟨first, last, hOld, hNew⟩ := exists_flatMap_modify
        (fun m : AnnotatedMethod => (m.endpoints.map (Endpoint.below before)).filter keep) hMethod
      rw [hOld, withAnnotationsAt, hNew, hSame]

theorem problems_withAnnotationsAt (hMethod : c.methods[j]? = some m)
    (hSame : (m.withAnnotations annotations).problems = m.problems) :
    (c.withAnnotationsAt j annotations).problems = c.problems := by
  have hPrefixes := prefixes_withAnnotationsAt j annotations c
  cases hFound : c.prefixes with
  | error problem => simp only [problems, hPrefixes, hFound]
  | ok found =>
      obtain ⟨first, last, hOld, hNew⟩ := exists_flatMap_modify AnnotatedMethod.problems hMethod
      rw [problems_eq_flatMap_of_prefixes hFound,
        problems_eq_flatMap_of_prefixes (hPrefixes.trans hFound), hOld, withAnnotationsAt, hNew,
        hSame]

theorem length_countedHandlers_withAnnotationsAt (hMethod : c.methods[j]? = some m)
    (hHandler : (m.withAnnotations annotations).hasAny Marker.routeNames =
      m.hasAny Marker.routeNames) :
    (c.withAnnotationsAt j annotations).countedHandlers.length = c.countedHandlers.length := by
  have hPrefixes := prefixes_withAnnotationsAt j annotations c
  have hUnits : (c.withAnnotationsAt j annotations).handlers.map (fun _ => ()) =
      c.handlers.map fun _ => () :=
    map_filter_modify hMethod hHandler rfl
  have hHandlers : (c.withAnnotationsAt j annotations).handlers.length = c.handlers.length := by
    simpa using congrArg List.length hUnits
  cases hFound : c.prefixes with
  | error problem => simp only [countedHandlers, hPrefixes, hFound]
  | ok found => simp only [countedHandlers, hPrefixes, hFound, hHandlers]

end AnnotatedClass

/-! ## A model -/

namespace SourceModel

variable {model : SourceModel} {i j : Nat} {c : AnnotatedClass} {m : AnnotatedMethod}
  {annotations front old new back : List AnnotationUse}

theorem MethodAt.withAnnotationsAt (hAt : model.MethodAt i j c m) :
    (model.withAnnotationsAt i j annotations).MethodAt i j
      (c.withAnnotationsAt j annotations) (m.withAnnotations annotations) := by
  constructor
  case cls =>
    rw [SourceModel.withAnnotationsAt, List.getElem?_modify_eq, hAt.cls]
    rfl
  case method =>
    rw [AnnotatedClass.withAnnotationsAt, List.getElem?_modify_eq, hAt.method]
    rfl

/-- What is read off the controllers is the same if it is for the class of the method. -/
theorem map_controllers_withAnnotationsAt {β : Type} {f : AnnotatedClass → β}
    (hClass : model[i]? = some c) (hSame : f (c.withAnnotationsAt j annotations) = f c) :
    (model.withAnnotationsAt i j annotations).controllers.map f = model.controllers.map f :=
  map_filter_modify hClass rfl hSame

/-- A filter that sees no difference in what the old and the new annotations write, whatever
the prefix and the guards are, sees none in the run. -/
theorem filter_emissions_exchange (keep : Endpoint → Bool) (hAt : model.MethodAt i j c m)
    (hExchange : m.Exchange front old new back)
    (hSame : ∀ before guards,
      ((new.flatMap (AnnotationUse.routeEndpoints guards)).map (Endpoint.below before)).filter
          keep =
        ((old.flatMap (AnnotationUse.routeEndpoints guards)).map (Endpoint.below before)).filter
          keep) :
    (model.withAnnotationsAt i j (front ++ new ++ back)).emissions.filter keep =
      model.emissions.filter keep := by
  have hMethod (before : Text) :
      ((m.withAnnotations (front ++ new ++ back)).endpoints.map (Endpoint.below before)).filter
          keep = (m.endpoints.map (Endpoint.below before)).filter keep := by
    obtain ⟨first, last, hOld, hNew⟩ := hExchange.exists_endpoints
    simp only [hOld, hNew, List.map_append, List.filter_append, hSame]
  have hClass := AnnotatedClass.filter_emissions_withAnnotationsAt hAt.method hMethod
  have hClasses := map_controllers_withAnnotationsAt
    (f := fun c => c.emissions.filter keep) hAt.cls hClass
  rw [emissions, emissions, List.filter_flatMap, List.filter_flatMap, List.flatMap_def,
    List.flatMap_def, hClasses]

/-- If the new annotations write what the old ones write, the run writes the same. -/
theorem emissions_exchange (hAt : model.MethodAt i j c m)
    (hExchange : m.Exchange front old new back)
    (hSame : ∀ guards, new.flatMap (AnnotationUse.routeEndpoints guards) =
      old.flatMap (AnnotationUse.routeEndpoints guards)) :
    (model.withAnnotationsAt i j (front ++ new ++ back)).emissions = model.emissions := by
  have hFilter := filter_emissions_exchange (fun _ => true) hAt hExchange
    (fun before guards => by rw [hSame])
  rwa [List.filter_true, List.filter_true] at hFilter

theorem length_controllers_withAnnotationsAt (hClass : model[i]? = some c) :
    (model.withAnnotationsAt i j annotations).controllers.length = model.controllers.length := by
  have hUnits : (model.withAnnotationsAt i j annotations).controllers.map (fun _ => ()) =
      model.controllers.map fun _ => () :=
    map_controllers_withAnnotationsAt hClass rfl
  simpa using congrArg List.length hUnits

theorem length_countedHandlers_withAnnotationsAt (hAt : model.MethodAt i j c m)
    (hHandler : (m.withAnnotations annotations).hasAny Marker.routeNames =
      m.hasAny Marker.routeNames) :
    (model.withAnnotationsAt i j annotations).countedHandlers.length =
      model.countedHandlers.length := by
  have hClass := AnnotatedClass.length_countedHandlers_withAnnotationsAt hAt.method hHandler
  have hClasses := map_controllers_withAnnotationsAt
    (f := fun c => c.countedHandlers.length) hAt.cls hClass
  rw [countedHandlers, countedHandlers, List.length_flatMap, List.length_flatMap, hClasses]

theorem problems_withAnnotationsAt (hAt : model.MethodAt i j c m)
    (hSame : (m.withAnnotations annotations).problems = m.problems) :
    (model.withAnnotationsAt i j annotations).problems = model.problems := by
  have hClass := AnnotatedClass.problems_withAnnotationsAt hAt.method hSame
  rw [problems, problems, List.flatMap_def, List.flatMap_def,
    map_controllers_withAnnotationsAt hAt.cls hClass]

/-- In a controller with known prefixes the problems of the new annotations stand where those
of the old ones stood. -/
theorem problems_exchange {found : List Text} (hAt : model.MethodAt i j c m)
    (hController : c.isController = true) (hPrefixes : c.prefixes = .ok found)
    (hExchange : m.Exchange front old new back) :
    ∃ first last,
      model.problems = first ++ old.filterMap AnnotationUse.routeProblem? ++ last ∧
        (model.withAnnotationsAt i j (front ++ new ++ back)).problems =
          first ++ new.filterMap AnnotationUse.routeProblem? ++ last := by
  obtain ⟨inMethod, restOfMethod, hOld, hNew⟩ := hExchange.exists_problems
  obtain ⟨inClass, restOfClass, hMethods, hMethods'⟩ :=
    exists_flatMap_modify AnnotatedMethod.problems hAt.method
  obtain ⟨inModel, restOfModel, hClasses, hClasses'⟩ := exists_flatMap_modify
    (fun c : AnnotatedClass => if c.isController then c.problems else []) hAt.cls
  refine ⟨inModel ++ inClass ++ inMethod, restOfMethod ++ restOfClass ++ restOfModel, ?_, ?_⟩
  · rw [problems, controllers, flatMap_filter_eq_flatMap_ite, hClasses, if_pos hController,
      AnnotatedClass.problems_eq_flatMap_of_prefixes hPrefixes, hMethods, hOld]
    simp only [List.append_assoc]
  · have hController' : (c.withAnnotationsAt j (front ++ new ++ back)).isController = true :=
      hController
    have hPrefixes' : (c.withAnnotationsAt j (front ++ new ++ back)).prefixes = .ok found :=
      hPrefixes
    rw [problems, controllers, flatMap_filter_eq_flatMap_ite, withAnnotationsAt, hClasses',
      if_pos hController', AnnotatedClass.problems_eq_flatMap_of_prefixes hPrefixes',
      AnnotatedClass.withAnnotationsAt, hMethods', hNew]
    simp only [List.append_assoc]

end SourceModel

end SpringAudit

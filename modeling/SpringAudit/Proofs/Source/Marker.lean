import SpringAudit.Proofs.OrderedMap.Lookup
import SpringAudit.Source.Model

/-!
# Names and markers

Classes and methods are selected by sets of names, while annotations are read by what
their names mark.  Both go back to one table without repeated names, and so they agree:
a name is in a set exactly if it marks what the set is for.
-/

namespace SpringAudit

namespace Marker

/-- Whether the marker is that of a controller. -/
def isController : Marker → Bool
  | controller => true
  | _ => false

/-- Whether the marker is that of a route. -/
def isRoute : Marker → Bool
  | route _ => true
  | _ => false

/-- Whether the marker is that of a guard. -/
def isGuard : Marker → Bool
  | guard _ => true
  | _ => false

theorem nodup_names : ((controllers ++ routes ++ guards).map Prod.fst).Nodup := by
  decide

/-- No name stands twice in the table, so what a name marks can be read off any entry. -/
theorem ofName?_eq_some_iff {name : Text} {marker : Marker} :
    ofName? name = some marker ↔ (name, marker) ∈ controllers ++ routes ++ guards :=
  lookup_eq_some_iff_mem nodup_names

theorem ofName?_eq_guard_iff {name : Text} {kind : GuardKind} :
    ofName? name = some (.guard kind) ↔ name = kind.name := by
  rw [ofName?_eq_some_iff]
  cases kind <;> simp [controllers, routes, guards, GuardKind.all]

/-- The names of one part of the table are those that mark what only this part is for. -/
theorem mem_names_iff {part : List (Text × Marker)} {isKind : Marker → Bool}
    (hPart : part = (controllers ++ routes ++ guards).filter fun entry => isKind entry.2)
    {name : Text} : name ∈ part.map Prod.fst ↔ (ofName? name).any isKind = true := by
  rw [Option.any_eq_true]
  constructor
  · intro hName
    obtain ⟨⟨name, marker⟩, hEntry, rfl⟩ := List.mem_map.1 hName
    rw [hPart, List.mem_filter] at hEntry
    exact ⟨marker, ofName?_eq_some_iff.2 hEntry.1, hEntry.2⟩
  · rintro ⟨marker, hMarker, hKind⟩
    refine List.mem_map.2 ⟨(name, marker), ?_, rfl⟩
    rw [hPart, List.mem_filter]
    exact ⟨ofName?_eq_some_iff.1 hMarker, hKind⟩

theorem mem_controllerNames_iff {name : Text} :
    name ∈ controllerNames ↔ (ofName? name).any isController = true :=
  mem_names_iff (by decide)

theorem mem_routeNames_iff {name : Text} :
    name ∈ routeNames ↔ (ofName? name).any isRoute = true :=
  mem_names_iff (by decide)

end Marker

namespace AnnotationUse

/-- Whether the annotation marks something of a kind. -/
def marks (isKind : Marker → Bool) (a : AnnotationUse) : Bool :=
  a.marker?.any isKind

theorem isNamed_controllerNames (a : AnnotationUse) :
    a.isNamed Marker.controllerNames = a.marks Marker.isController := by
  rw [isNamed, List.contains_eq_mem, Bool.eq_iff_iff, decide_eq_true_iff]
  exact Marker.mem_controllerNames_iff

theorem isNamed_routeNames (a : AnnotationUse) :
    a.isNamed Marker.routeNames = a.marks Marker.isRoute := by
  rw [isNamed, List.contains_eq_mem, Bool.eq_iff_iff, decide_eq_true_iff]
  exact Marker.mem_routeNames_iff

end AnnotationUse

/-- A class is a controller exactly if some annotation marks one. -/
theorem AnnotatedClass.isController_eq (c : AnnotatedClass) :
    c.isController = c.annotations.any (·.marks Marker.isController) := by
  simp only [isController, hasAny, AnnotationUse.isNamed_controllerNames]

/-- A method is a handler exactly if some annotation marks a route. -/
theorem AnnotatedMethod.hasAny_routeNames (m : AnnotatedMethod) :
    m.hasAny Marker.routeNames = m.annotations.any (·.marks Marker.isRoute) := by
  simp only [hasAny, AnnotationUse.isNamed_routeNames]

end SpringAudit

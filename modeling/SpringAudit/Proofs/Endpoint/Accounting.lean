import SpringAudit.Proofs.Endpoint.Emission

/-!
# Which annotation answers for what

Every emission and every diagnostic of a run is traced here to the place in the
model that causes it: the mapping of a class, or one annotation of one method.
Forgetting the places gives back what the run does (`extract_eq_traced`), so the
traces can be used to count what each annotation contributes.

* `RouteAt.emissionsAt_eq`, `RouteAt.problemsAt_eq`: what one annotation contributes.
* `SourceModel.mem_tracedProblems_iff`: which diagnostics there are at all.
* `extract_accounts_for_every_mapping`: a route annotation is reported once, or
  it writes an endpoint for each prefix, URL and HTTP method.

A route annotation contributes nothing, and says nothing about it, only when an
array of URLs has elements but no literal among them.
-/

namespace SpringAudit

/-! ## Contributions by place -/

section Places

variable {α β γ : Type}

/-- What the elements of a list contribute in their order, each knowing its place. -/
def flatMapIdx (f : Nat → α → List β) (l : List α) : List β :=
  l.zipIdx.flatMap fun entry => f entry.2 entry.1

theorem mem_flatMapIdx {f : Nat → α → List β} {l : List α} {b : β} :
    b ∈ flatMapIdx f l ↔ ∃ k a, l[k]? = some a ∧ b ∈ f k a := by
  rw [flatMapIdx, List.mem_flatMap]
  constructor
  · rintro ⟨⟨a, k⟩, hEntry, hMem⟩
    exact ⟨k, a, List.mem_zipIdx_iff_getElem?.1 hEntry, hMem⟩
  · rintro ⟨k, a, hAt, hMem⟩
    exact ⟨(a, k), List.mem_zipIdx_iff_getElem?.2 hAt, hMem⟩

/-- A map under which the places no longer show leaves an ordinary `flatMap`. -/
theorem map_flatMapIdx {f : Nat → α → List β} {g : β → γ} {f' : α → List γ}
    (hForget : ∀ k a, (f k a).map g = f' a) (l : List α) :
    (flatMapIdx f l).map g = l.flatMap f' := by
  have hEntry : (fun entry : α × Nat => (f entry.2 entry.1).map g) = fun entry => f' entry.1 := by
    funext entry
    exact hForget entry.2 entry.1
  calc
    (flatMapIdx f l).map g = l.zipIdx.flatMap (fun entry => f' entry.1) := by
      rw [flatMapIdx, List.map_flatMap, hEntry]
    _ = (l.zipIdx.map Prod.fst).flatMap f' := by rw [List.flatMap_map]
    _ = l.flatMap f' := by rw [List.zipIdx_map_fst]

/-- If only one place passes a filter, what is left comes from the element there. -/
theorem filter_flatMapIdx {f : Nat → α → List β} {keep : β → Bool} {l : List α} {k : Nat} {a : α}
    (hAt : l[k]? = some a) (hOther : ∀ n b, n ≠ k → (f n b).filter keep = []) :
    (flatMapIdx f l).filter keep = (f k a).filter keep := by
  have hSuffix (n : Nat) (rest : List α) (hBeyond : k < n) :
      ((rest.zipIdx n).flatMap fun entry => (f entry.2 entry.1).filter keep) = [] := by
    refine List.flatMap_eq_nil_iff.2 fun entry hEntry => hOther _ _ ?_
    have := List.le_snd_of_mem_zipIdx hEntry
    omega
  -- The list is cut at the place, which the start of the numbering then follows.
  suffices hFrom : ∀ (l : List α) (start n : Nat), l[n]? = some a → start + n = k →
      ((l.zipIdx start).flatMap fun entry => (f entry.2 entry.1).filter keep) =
        (f k a).filter keep by
    rw [flatMapIdx, List.filter_flatMap]
    exact hFrom l 0 k hAt (Nat.zero_add k)
  intro l
  induction l with
  | nil =>
      intro start n hAt
      simp at hAt
  | cons first rest ih =>
      intro start n hAt hPlace
      rw [List.zipIdx_cons, List.flatMap_cons]
      cases n with
      | zero =>
          obtain rfl : first = a := by simpa using hAt
          obtain rfl : start = k := by simpa using hPlace
          rw [hSuffix (start + 1) rest (by omega), List.append_nil]
      | succ n =>
          have hRest := ih (start + 1) n (by simpa using hAt) (by omega)
          rw [hOther start first (by omega), List.nil_append, hRest]

end Places

/-! ## The traces -/

/-- What causes an emission or a diagnostic: the mapping of a class, or an annotation of a
method, by their places in the model. -/
inductive Site where
  | classMapping (cls : Nat)
  | mapping (cls method annotation : Nat)
  deriving DecidableEq

/-- The place of the class that a site belongs to. -/
def Site.cls : Site → Nat
  | .classMapping cls => cls
  | .mapping cls _ _ => cls

namespace AnnotatedClass

variable {β : Type}

/-- What the annotations of all methods of a class contribute, traced to them. -/
def traced (contribute : AnnotatedMethod → AnnotationUse → List β) (cls : Nat)
    (c : AnnotatedClass) : List (Site × β) :=
  flatMapIdx
    (fun j m =>
      flatMapIdx (fun k a => (contribute m a).map (Prod.mk (.mapping cls j k))) m.annotations)
    c.methods

/-- What a controller writes, traced to the annotations of its methods. -/
def tracedEmissions (cls : Nat) (c : AnnotatedClass) : List (Site × Endpoint) :=
  match c.prefixes with
  | .ok found => found.flatMap fun before => c.traced (AnnotatedMethod.emissionsBelow before) cls
  | .error _ => []

/-- The diagnostics of a controller, traced to its mapping or the annotations of its methods. -/
def tracedProblems (cls : Nat) (c : AnnotatedClass) : List (Site × Diagnostic) :=
  match c.prefixes with
  | .ok _ => c.traced (fun _ a => a.routeProblem?.toList) cls
  | .error problem => [(.classMapping cls, problem)]

end AnnotatedClass

namespace SourceModel

variable {β : Type}

/-- What the controllers of a model contribute, each knowing its place. -/
def traced (contribute : Nat → AnnotatedClass → List (Site × β)) (model : SourceModel) :
    List (Site × β) :=
  flatMapIdx (fun i c => if c.isController then contribute i c else []) model

/-- What a run writes, in its order, with the sites that cause it. -/
def tracedEmissions (model : SourceModel) : List (Site × Endpoint) :=
  model.traced AnnotatedClass.tracedEmissions

/-- What a run reports, in its order, with the sites that cause it. -/
def tracedProblems (model : SourceModel) : List (Site × Diagnostic) :=
  model.traced AnnotatedClass.tracedProblems

/-- What one site writes. -/
def emissionsAt (model : SourceModel) (site : Site) : List (Site × Endpoint) :=
  model.tracedEmissions.filter fun entry => decide (entry.1 = site)

/-- What is reported for one site. -/
def problemsAt (model : SourceModel) (site : Site) : List (Site × Diagnostic) :=
  model.tracedProblems.filter fun entry => decide (entry.1 = site)

/-- What the sites of one class write. -/
def emissionsOfClass (model : SourceModel) (cls : Nat) : List (Site × Endpoint) :=
  model.tracedEmissions.filter fun entry => decide (entry.1.cls = cls)

/-- What is reported for the sites of one class. -/
def problemsOfClass (model : SourceModel) (cls : Nat) : List (Site × Diagnostic) :=
  model.tracedProblems.filter fun entry => decide (entry.1.cls = cls)

end SourceModel

/-! ## Forgetting the sites -/

namespace AnnotatedClass

theorem map_snd_traced {β : Type} (contribute : AnnotatedMethod → AnnotationUse → List β)
    (cls : Nat) (c : AnnotatedClass) :
    (c.traced contribute cls).map Prod.snd =
      c.methods.flatMap fun m => m.annotations.flatMap (contribute m) := by
  refine map_flatMapIdx (fun j m => ?_) c.methods
  exact map_flatMapIdx (fun k a => by simp [Function.comp_def]) m.annotations

theorem map_snd_tracedEmissions (cls : Nat) (c : AnnotatedClass) :
    (c.tracedEmissions cls).map Prod.snd = c.emissions := by
  unfold tracedEmissions emissions
  cases c.prefixes with
  | error problem => rfl
  | ok found => simp only [List.map_flatMap, map_snd_traced]

theorem map_snd_tracedProblems (cls : Nat) (c : AnnotatedClass) :
    (c.tracedProblems cls).map Prod.snd = c.problems := by
  unfold tracedProblems problems
  cases c.prefixes with
  | error problem => rfl
  | ok found => simp only [map_snd_traced, List.filterMap_eq_flatMap_toList]

end AnnotatedClass

namespace SourceModel

theorem map_snd_traced {β : Type} {contribute : Nat → AnnotatedClass → List (Site × β)}
    {contribute' : AnnotatedClass → List β}
    (hForget : ∀ i c, (contribute i c).map Prod.snd = contribute' c) (model : SourceModel) :
    (model.traced contribute).map Prod.snd = model.controllers.flatMap contribute' := by
  rw [controllers, flatMap_filter_eq_flatMap_ite]
  refine map_flatMapIdx (fun i c => ?_) model
  by_cases hController : c.isController
  · rw [if_pos hController, if_pos hController, hForget]
  · rw [if_neg hController, if_neg hController, List.map_nil]

theorem map_snd_tracedEmissions (model : SourceModel) :
    model.tracedEmissions.map Prod.snd = model.emissions :=
  map_snd_traced AnnotatedClass.map_snd_tracedEmissions model

theorem map_snd_tracedProblems (model : SourceModel) :
    model.tracedProblems.map Prod.snd = model.problems :=
  map_snd_traced AnnotatedClass.map_snd_tracedProblems model

end SourceModel

/-- A run writes and reports what the traces list. -/
theorem extract_eq_traced (model : SourceModel) (store : EndpointStore)
    (diagnostics : List Diagnostic) :
    (extract model store diagnostics).store =
        store.addAll (model.tracedEmissions.map Prod.snd) ∧
      (extract model store diagnostics).diagnostics =
        diagnostics ++ model.tracedProblems.map Prod.snd := by
  rw [extract_eq, SourceModel.map_snd_tracedEmissions, SourceModel.map_snd_tracedProblems]
  exact ⟨rfl, rfl⟩

/-! ## One site -/

namespace AnnotatedClass

variable {β : Type} {contribute : AnnotatedMethod → AnnotationUse → List β} {cls : Nat}
  {c : AnnotatedClass}

theorem mem_traced {entry : Site × β} :
    entry ∈ c.traced contribute cls ↔
      ∃ j m, c.methods[j]? = some m ∧ ∃ k a, m.annotations[k]? = some a ∧
        ∃ b ∈ contribute m a, (.mapping cls j k, b) = entry := by
  simp only [traced, mem_flatMapIdx, List.mem_map]

/-- An annotation contributes to its own site, and nothing else does. -/
theorem filter_traced {j k : Nat} {m : AnnotatedMethod} {a : AnnotationUse}
    (hMethod : c.methods[j]? = some m) (hUse : m.annotations[k]? = some a) :
    ((c.traced contribute cls).filter fun entry => decide (entry.1 = .mapping cls j k)) =
      (contribute m a).map (Prod.mk (.mapping cls j k)) := by
  -- Other annotations of the method differ in the last number of the site, other methods in
  -- the one before.
  have hUses : ∀ (n : Nat) (other : AnnotationUse), n ≠ k →
      (((contribute m other).map (Prod.mk (Site.mapping cls j n))).filter
        fun entry => decide (entry.1 = .mapping cls j k)) = [] := by
    intro n other hPlace
    simp [List.filter_eq_nil_iff, hPlace]
  have hMethods : ∀ (n : Nat) (other : AnnotatedMethod), n ≠ j →
      ((flatMapIdx (fun k' a' => (contribute other a').map (Prod.mk (Site.mapping cls n k')))
        other.annotations).filter fun entry => decide (entry.1 = .mapping cls j k)) = [] := by
    intro n other hPlace
    rw [List.filter_eq_nil_iff]
    intro entry hEntry
    obtain ⟨k', a', -, hMem⟩ := mem_flatMapIdx.1 hEntry
    obtain ⟨b, -, rfl⟩ := List.mem_map.1 hMem
    simp [hPlace]
  rw [traced, filter_flatMapIdx hMethod hMethods, filter_flatMapIdx hUse hUses]
  simp

theorem cls_of_mem_tracedEmissions {entry : Site × Endpoint}
    (h : entry ∈ c.tracedEmissions cls) : entry.1.cls = cls := by
  unfold tracedEmissions at h
  cases hPrefixes : c.prefixes with
  | error problem => simp [hPrefixes] at h
  | ok found =>
      rw [hPrefixes] at h
      obtain ⟨before, -, hBelow⟩ := List.mem_flatMap.1 h
      obtain ⟨j, m, -, k, a, -, e, -, rfl⟩ := mem_traced.1 hBelow
      rfl

theorem cls_of_mem_tracedProblems {entry : Site × Diagnostic}
    (h : entry ∈ c.tracedProblems cls) : entry.1.cls = cls := by
  unfold tracedProblems at h
  cases hPrefixes : c.prefixes with
  | error problem =>
      rw [hPrefixes] at h
      obtain rfl := List.mem_singleton.1 h
      rfl
  | ok found =>
      rw [hPrefixes] at h
      obtain ⟨j, m, -, k, a, -, d, -, rfl⟩ := mem_traced.1 h
      rfl

end AnnotatedClass

/-- Of what is left by a filter on the sites of one class, only that class contributes. -/
theorem SourceModel.filter_traced {β : Type} {contribute : Nat → AnnotatedClass → List (Site × β)}
    (hPlace : ∀ {n other entry}, entry ∈ contribute n other → entry.1.cls = n)
    (keep : Site → Bool) {model : SourceModel} {i : Nat} {c : AnnotatedClass}
    (hKeep : ∀ site, keep site = true → site.cls = i) (hClass : model[i]? = some c)
    (hController : c.isController = true) :
    ((model.traced contribute).filter fun entry => keep entry.1) =
      (contribute i c).filter fun entry => keep entry.1 := by
  rw [traced, filter_flatMapIdx hClass, if_pos hController]
  intro n other hOther
  by_cases hOtherController : other.isController
  · rw [if_pos hOtherController, List.filter_eq_nil_iff]
    intro entry hEntry hKept
    exact hOther ((hPlace hEntry).symm.trans (hKeep entry.1 hKept))
  · rw [if_neg hOtherController, List.filter_nil]

/-! ## Arguments that give no URL -/

/-- Whether a value is an array that has elements but no literal among them. -/
def ArgumentValue.IsArrayWithoutLiteral (value : ArgumentValue) : Prop :=
  ∃ items, value = .list items ∧ items ≠ [] ∧ ∀ text, ArgumentValue.literal text ∉ items

theorem ArgumentValue.literal?_eq_some_iff {value : ArgumentValue} {text : Text} :
    value.literal? = some text ↔ value = .literal text := by
  cases value <;> simp [literal?]

namespace AnnotationUse

variable {a : AnnotationUse} {fixed : Option Text}

/-- No URL at all is what an array without a literal stands for; any other value that is in
order stands for some URL, if only the empty one. -/
theorem urls_eq_nil_iff : a.urls = .ok [] ↔ a.urlArgument.IsArrayWithoutLiteral := by
  unfold urls ArgumentValue.IsArrayWithoutLiteral
  cases a.urlArgument with
  | absent => simp [ArgumentValue.urls?, bind, Except.bind, pure, Except.pure]
  | literal text => simp [ArgumentValue.urls?, bind, Except.bind, pure, Except.pure]
  | constant qualifier name => simp [ArgumentValue.urls?, bind, Except.bind]
  | expression text => simp [ArgumentValue.urls?, bind, Except.bind]
  | list items =>
      cases items with
      | nil => simp [ArgumentValue.urls?, bind, Except.bind, pure, Except.pure]
      | cons first rest =>
          have hUrls : (ArgumentValue.list (first :: rest)).urls? =
              .ok (some ((first :: rest).filterMap ArgumentValue.literal?)) := rfl
          have hNone : (first :: rest).filterMap ArgumentValue.literal? = [] ↔
              ∀ text, ArgumentValue.literal text ∉ first :: rest := by
            rw [List.filterMap_eq_nil_iff]
            constructor
            · intro hAll text hMem
              exact Option.some_ne_none text (hAll (.literal text) hMem)
            · intro hAll item hMem
              refine Option.eq_none_iff_forall_ne_some.2 fun text hText => hAll text ?_
              rwa [← ArgumentValue.literal?_eq_some_iff.1 hText]
          simp only [hUrls, bind, Except.bind, pure, Except.pure, Option.getD_some,
            Except.ok.injEq, hNone]
          constructor
          · exact fun hAll => ⟨_, rfl, List.cons_ne_nil first rest, hAll⟩
          · rintro ⟨items, hItems, -, hAll⟩
            rwa [ArgumentValue.list.inj hItems]

/-- A mapping that is in order has some HTTP method. -/
theorem httpMethods_ne_nil {methods : List Text} (h : a.httpMethods fixed = .ok methods) :
    methods ≠ [] := by
  cases fixed with
  | some name =>
      obtain rfl : [name] = methods := Except.ok.inj h
      simp
  | none =>
      rw [httpMethods] at h
      cases hMethod : (a.argument "method").httpMethod? with
      | error e => simp [hMethod, bind, Except.bind] at h
      | ok found =>
          rw [hMethod] at h
          cases found with
          | none =>
              obtain rfl : defaultHttpMethods = methods := Except.ok.inj h
              simp [defaultHttpMethods]
          | some name =>
              obtain rfl : [name] = methods := Except.ok.inj h
              simp

/-- An argument of a route annotation is not in order: that of its URL, or else that of its
HTTP method, which counts only if the marker does not fix it. -/
inductive Fails (a : AnnotationUse) (fixed : Option Text) (e : ResolutionError) : Prop where
  | url (hUrls : a.urls = .error e)
  | httpMethod {urls : List Text} (hUrls : a.urls = .ok urls)
      (hMethods : a.httpMethods fixed = .error e)

theorem routeProblem?_eq_of_fails {e : ResolutionError}
    (hMarker : a.marker? = some (.route fixed)) (h : a.Fails fixed e) :
    a.routeProblem? = some (e.diagnostic a) := by
  cases h with
  | url hUrls => simp [routeProblem?, hMarker, hUrls]
  | httpMethod hUrls hMethods => simp [routeProblem?, hMarker, hUrls, hMethods]

theorem routeProblem?_eq_some_iff {d : Diagnostic} :
    a.routeProblem? = some d ↔
      ∃ fixed e, a.marker? = some (.route fixed) ∧ a.Fails fixed e ∧ e.diagnostic a = d := by
  constructor
  · intro h
    unfold routeProblem? at h
    cases hMarker : a.marker? with
    | none => simp [hMarker] at h
    | some marker =>
        cases marker with
        | controller => simp [hMarker] at h
        | guard kind => simp [hMarker] at h
        | route fixed =>
            cases hUrls : a.urls with
            | error e => exact ⟨fixed, e, rfl, .url hUrls, by simpa [hMarker, hUrls] using h⟩
            | ok urls =>
                cases hMethods : a.httpMethods fixed with
                | ok methods => simp [hMarker, hUrls, hMethods] at h
                | error e =>
                    exact ⟨fixed, e, rfl, .httpMethod hUrls hMethods,
                      by simpa [hMarker, hUrls, hMethods] using h⟩
  · rintro ⟨fixed, e, hMarker, hFails, rfl⟩
    exact routeProblem?_eq_of_fails hMarker hFails

theorem emissionsBelow_eq_nil_of_fails {e : ResolutionError} (m : AnnotatedMethod)
    (before : Text) (hMarker : a.marker? = some (.route fixed)) (h : a.Fails fixed e) :
    m.emissionsBelow before a = [] := by
  cases h with
  | url hUrls => simp [AnnotatedMethod.emissionsBelow, hMarker, hUrls]
  | httpMethod hUrls hMethods =>
      simp [AnnotatedMethod.emissionsBelow, hMarker, hUrls, hMethods]

end AnnotationUse

/-- The URL prefixes of a controller are the URLs of its mapping. -/
theorem AnnotatedClass.prefixes_eq_error_iff {c : AnnotatedClass} {d : Diagnostic} :
    c.prefixes = .error d ↔
      ∃ b e, c.annotation? Marker.requestMapping = some b ∧ b.urls = .error e ∧
        e.diagnostic b = d := by
  unfold AnnotatedClass.prefixes
  cases c.annotation? Marker.requestMapping with
  | none => simp
  | some b => cases hUrls : b.urls <;> simp [hUrls, Except.mapError]

/-- A controller has no prefix exactly if its mapping has an array without a literal. -/
theorem AnnotatedClass.prefixes_eq_nil_iff {c : AnnotatedClass} :
    c.prefixes = .ok [] ↔
      ∃ b, c.annotation? Marker.requestMapping = some b ∧
        b.urlArgument.IsArrayWithoutLiteral := by
  unfold AnnotatedClass.prefixes
  cases c.annotation? Marker.requestMapping with
  | none => simp
  | some b =>
      simp only [Option.some.injEq, exists_eq_left', ← AnnotationUse.urls_eq_nil_iff]
      cases b.urls <;> simp [Except.mapError]

/-! ## The account of a run -/

namespace SourceModel

/-- A route annotation of a controller: its place, the class and the method it stands on, and
the HTTP method that its marker fixes, if any. -/
structure RouteAt (model : SourceModel) (i j k : Nat) (c : AnnotatedClass)
    (m : AnnotatedMethod) (a : AnnotationUse) (fixed : Option Text) : Prop where
  cls : model[i]? = some c
  controller : c.isController = true
  method : c.methods[j]? = some m
  use : m.annotations[k]? = some a
  route : a.marker? = some (.route fixed)

/-- What must be reported: the mapping of a controller whose URL is not in order and, on the
methods of the other controllers, each route annotation with an argument not in order. -/
inductive Reportable (model : SourceModel) : Site → Diagnostic → Prop where
  | classMapping {i : Nat} {c : AnnotatedClass} {b : AnnotationUse} {e : ResolutionError}
      (hClass : model[i]? = some c) (hController : c.isController = true)
      (hMapping : c.annotation? Marker.requestMapping = some b) (hUrls : b.urls = .error e) :
      Reportable model (.classMapping i) (e.diagnostic b)
  | mapping {i j k : Nat} {c : AnnotatedClass} {m : AnnotatedMethod} {a : AnnotationUse}
      {fixed : Option Text} {found : List Text} {e : ResolutionError}
      (hRoute : model.RouteAt i j k c m a fixed) (hPrefixes : c.prefixes = .ok found)
      (hFails : a.Fails fixed e) :
      Reportable model (.mapping i j k) (e.diagnostic a)

variable {model : SourceModel} {i j k : Nat} {c : AnnotatedClass} {m : AnnotatedMethod}
  {a : AnnotationUse} {fixed : Option Text} {found : List Text}

/-- Everything that must be reported is reported, and nothing else. -/
theorem mem_tracedProblems_iff {site : Site} {d : Diagnostic} :
    (site, d) ∈ model.tracedProblems ↔ model.Reportable site d := by
  rw [tracedProblems, traced, mem_flatMapIdx]
  constructor
  · rintro ⟨i, c, hClass, hMem⟩
    by_cases hController : c.isController
    · rw [if_pos hController, AnnotatedClass.tracedProblems] at hMem
      cases hPrefixes : c.prefixes with
      | error problem =>
          rw [hPrefixes] at hMem
          obtain ⟨rfl, rfl⟩ : site = .classMapping i ∧ d = problem := by simpa using hMem
          obtain ⟨b, e, hMapping, hUrls, rfl⟩ := AnnotatedClass.prefixes_eq_error_iff.1 hPrefixes
          exact .classMapping hClass hController hMapping hUrls
      | ok found =>
          rw [hPrefixes] at hMem
          obtain ⟨j, m, hMethod, k, a, hUse, d', hProblem, hEntry⟩ :=
            AnnotatedClass.mem_traced.1 hMem
          obtain ⟨rfl, rfl⟩ : Site.mapping i j k = site ∧ d' = d := by simpa using hEntry
          obtain ⟨fixed, e, hMarker, hFails, rfl⟩ :=
            AnnotationUse.routeProblem?_eq_some_iff.1 (Option.mem_toList.1 hProblem)
          exact .mapping ⟨hClass, hController, hMethod, hUse, hMarker⟩ hPrefixes hFails
    · rw [if_neg hController] at hMem
      simp at hMem
  · intro hReportable
    cases hReportable with
    | @classMapping i c b e hClass hController hMapping hUrls =>
        have hPrefixes : c.prefixes = .error (e.diagnostic b) :=
          AnnotatedClass.prefixes_eq_error_iff.2 ⟨b, e, hMapping, hUrls, rfl⟩
        refine ⟨i, c, hClass, ?_⟩
        rw [if_pos hController, AnnotatedClass.tracedProblems, hPrefixes]
        exact List.mem_singleton.2 rfl
    | @mapping i j k c m a fixed found e hRoute hPrefixes hFails =>
        have hProblem := AnnotationUse.routeProblem?_eq_of_fails hRoute.route hFails
        refine ⟨i, c, hRoute.cls, ?_⟩
        rw [if_pos hRoute.controller, AnnotatedClass.tracedProblems, hPrefixes]
        exact AnnotatedClass.mem_traced.2 ⟨j, m, hRoute.method, k, a, hRoute.use,
          e.diagnostic a, Option.mem_toList.2 hProblem, rfl⟩

/-- A controller whose mapping is not in order writes nothing and is reported once. -/
theorem account_of_prefixes_error {d : Diagnostic} (hClass : model[i]? = some c)
    (hController : c.isController = true) (hPrefixes : c.prefixes = .error d) :
    model.problemsOfClass i = [(.classMapping i, d)] ∧ model.emissionsOfClass i = [] := by
  have hKeep : ∀ site : Site, decide (site.cls = i) = true → site.cls = i :=
    fun site => of_decide_eq_true
  constructor
  · rw [problemsOfClass, tracedProblems,
      filter_traced AnnotatedClass.cls_of_mem_tracedProblems (fun site => decide (site.cls = i))
        hKeep hClass hController]
    simp [AnnotatedClass.tracedProblems, hPrefixes, Site.cls]
  · rw [emissionsOfClass, tracedEmissions,
      filter_traced AnnotatedClass.cls_of_mem_tracedEmissions (fun site => decide (site.cls = i))
        hKeep hClass hController]
    simp [AnnotatedClass.tracedEmissions, hPrefixes]

/-- A filter that keeps one annotation keeps sites of its class only. -/
theorem cls_of_eq_mapping (site : Site) (h : decide (site = .mapping i j k) = true) :
    site.cls = i := by
  rw [of_decide_eq_true h]
  rfl

/-- What a route annotation writes: its endpoints below each prefix of its class. -/
theorem RouteAt.emissionsAt_eq (h : model.RouteAt i j k c m a fixed)
    (hPrefixes : c.prefixes = .ok found) :
    model.emissionsAt (.mapping i j k) =
      found.flatMap fun before =>
        (m.emissionsBelow before a).map (Prod.mk (.mapping i j k)) := by
  rw [emissionsAt, tracedEmissions,
    filter_traced AnnotatedClass.cls_of_mem_tracedEmissions
      (fun site => decide (site = .mapping i j k)) cls_of_eq_mapping h.cls h.controller,
    AnnotatedClass.tracedEmissions, hPrefixes, List.filter_flatMap]
  congr 1
  funext before
  exact AnnotatedClass.filter_traced h.method h.use

/-- What is reported for a route annotation: its own problem, whatever the prefixes are. -/
theorem RouteAt.problemsAt_eq (h : model.RouteAt i j k c m a fixed)
    (hPrefixes : c.prefixes = .ok found) :
    model.problemsAt (.mapping i j k) =
      a.routeProblem?.toList.map (Prod.mk (.mapping i j k)) := by
  rw [problemsAt, tracedProblems,
    filter_traced AnnotatedClass.cls_of_mem_tracedProblems
      (fun site => decide (site = .mapping i j k)) cls_of_eq_mapping h.cls h.controller,
    AnnotatedClass.tracedProblems, hPrefixes]
  exact AnnotatedClass.filter_traced h.method h.use

/-- A route annotation with an argument not in order writes nothing and is reported once. -/
theorem RouteAt.account_of_fails {e : ResolutionError} (h : model.RouteAt i j k c m a fixed)
    (hPrefixes : c.prefixes = .ok found) (hFails : a.Fails fixed e) :
    model.emissionsAt (.mapping i j k) = [] ∧
      model.problemsAt (.mapping i j k) = [(.mapping i j k, e.diagnostic a)] := by
  constructor
  · rw [h.emissionsAt_eq hPrefixes, List.flatMap_eq_nil_iff]
    intro before _
    rw [AnnotationUse.emissionsBelow_eq_nil_of_fails m before h.route hFails, List.map_nil]
  · rw [h.problemsAt_eq hPrefixes, AnnotationUse.routeProblem?_eq_of_fails h.route hFails]
    rfl

/-- A route annotation in order writes one endpoint for each prefix, URL and HTTP method. -/
theorem RouteAt.account_of_resolved {urls methods : List Text}
    (h : model.RouteAt i j k c m a fixed) (hPrefixes : c.prefixes = .ok found)
    (hUrls : a.urls = .ok urls) (hMethods : a.httpMethods fixed = .ok methods) :
    model.problemsAt (.mapping i j k) = [] ∧
      (model.emissionsAt (.mapping i j k)).length =
        found.length * urls.length * methods.length := by
  constructor
  · rw [h.problemsAt_eq hPrefixes]
    simp [AnnotationUse.routeProblem?, h.route, hUrls, hMethods]
  · rw [h.emissionsAt_eq hPrefixes]
    simp [AnnotatedMethod.emissionsBelow, h.route, hUrls, hMethods, List.length_flatMap,
      Nat.mul_assoc]

/-- A route annotation in order writes nothing exactly if its own URL argument or that of its
class is an array without a literal. -/
theorem count_eq_zero_iff {urls methods : List Text} (hPrefixes : c.prefixes = .ok found)
    (hUrls : a.urls = .ok urls) (hMethods : a.httpMethods fixed = .ok methods) :
    found.length * urls.length * methods.length = 0 ↔
      (∃ b, c.annotation? Marker.requestMapping = some b ∧
        b.urlArgument.IsArrayWithoutLiteral) ∨ a.urlArgument.IsArrayWithoutLiteral := by
  -- The HTTP methods are never the reason: there is always at least one.
  have hSome : methods.length ≠ 0 := by
    simpa using AnnotationUse.httpMethods_ne_nil hMethods
  rw [← AnnotatedClass.prefixes_eq_nil_iff, ← AnnotationUse.urls_eq_nil_iff, hPrefixes, hUrls]
  simp only [Nat.mul_eq_zero, hSome, or_false, List.length_eq_zero_iff, Except.ok.injEq]

end SourceModel

/-- What is written is found in the store under its key. -/
theorem EndpointStore.key_mem_keys_addAll {store : EndpointStore} {endpoints : List Endpoint}
    {e : Endpoint} (h : e ∈ endpoints) : e.key ∈ (store.addAll endpoints).keys := by
  -- A key that is not there would have no last endpoint, but this one has its key.
  by_contra hAbsent
  have hNone := (OrderedMap.get?_eq_none_iff _ _).2 hAbsent
  rw [EndpointStore.get?_addAll, Option.or_eq_none_iff, List.getLast?_eq_none_iff,
    List.filter_eq_nil_iff] at hNone
  exact hNone.1 e h (by simp)

/-- A complete account of a run.  It writes and reports what the traces list, and it reports
exactly what must be reported.  A controller whose mapping is not in order contributes one
diagnostic and nothing else.  In any other controller a route annotation with an argument not
in order is reported once, however many prefixes there are, and writes nothing; one in order
is not reported and writes an endpoint for each prefix, URL and HTTP method.  That number is
zero only for an array of URLs without a literal. -/
theorem extract_accounts_for_every_mapping (model : SourceModel) (store : EndpointStore)
    (diagnostics : List Diagnostic) :
    ((extract model store diagnostics).store =
        store.addAll (model.tracedEmissions.map Prod.snd) ∧
      (extract model store diagnostics).diagnostics =
        diagnostics ++ model.tracedProblems.map Prod.snd ∧
      ∀ site d, (site, d) ∈ model.tracedProblems ↔ model.Reportable site d) ∧
    (∀ i c b e, model[i]? = some c → c.isController = true →
      c.annotation? Marker.requestMapping = some b → b.urls = .error e →
        model.problemsOfClass i = [(.classMapping i, e.diagnostic b)] ∧
          model.emissionsOfClass i = []) ∧
    ∀ i j k c m a fixed found, model.RouteAt i j k c m a fixed → c.prefixes = .ok found →
      (∀ e, a.Fails fixed e →
        model.emissionsAt (.mapping i j k) = [] ∧
          model.problemsAt (.mapping i j k) = [(.mapping i j k, e.diagnostic a)]) ∧
      ∀ urls methods, a.urls = .ok urls → a.httpMethods fixed = .ok methods →
        model.problemsAt (.mapping i j k) = [] ∧
        (model.emissionsAt (.mapping i j k)).length =
          found.length * urls.length * methods.length ∧
        (∀ entry ∈ model.emissionsAt (.mapping i j k),
          entry.2.key ∈ (extract model store diagnostics).store.keys) ∧
        (found.length * urls.length * methods.length = 0 ↔
          (∃ b, c.annotation? Marker.requestMapping = some b ∧
            b.urlArgument.IsArrayWithoutLiteral) ∨ a.urlArgument.IsArrayWithoutLiteral) := by
  obtain ⟨hStore, hDiagnostics⟩ := extract_eq_traced model store diagnostics
  refine ⟨⟨hStore, hDiagnostics, fun site d => SourceModel.mem_tracedProblems_iff⟩, ?_, ?_⟩
  · intro i c b e hClass hController hMapping hUrls
    have hPrefixes : c.prefixes = .error (e.diagnostic b) :=
      AnnotatedClass.prefixes_eq_error_iff.2 ⟨b, e, hMapping, hUrls, rfl⟩
    exact SourceModel.account_of_prefixes_error hClass hController hPrefixes
  · intro i j k c m a fixed found hRoute hPrefixes
    refine ⟨fun e hFails => hRoute.account_of_fails hPrefixes hFails, ?_⟩
    intro urls methods hUrls hMethods
    obtain ⟨hProblems, hCount⟩ := hRoute.account_of_resolved hPrefixes hUrls hMethods
    refine ⟨hProblems, hCount, ?_, SourceModel.count_eq_zero_iff hPrefixes hUrls hMethods⟩
    intro entry hEntry
    rw [hStore]
    have hTraced : entry ∈ model.tracedEmissions := List.mem_of_mem_filter hEntry
    exact EndpointStore.key_mem_keys_addAll (List.mem_map_of_mem hTraced)

/-- An annotation of a shop with a value. -/
def shopUse (name : Text) (value : ArgumentValue) : AnnotationUse :=
  ⟨name, name, "shop", .ofList [("value", value)]⟩

/-- A handler with a mapping in order and one whose URL is a constant that is not known. -/
def shopHandler : AnnotatedMethod :=
  ⟨"list", "list()", "Orders",
    [shopUse "GetMapping" (.literal "all"),
      shopUse "PostMapping" (.constant "Urls" "NEW")]⟩

/-- A controller with two prefixes and one whose own mapping is not in order. -/
def shopModel : SourceModel :=
  [⟨"Orders", "Orders.java",
      [shopUse "RestController" .absent,
        shopUse "RequestMapping" (.list [.literal "/orders", .literal "/sales"])],
      [shopHandler]⟩,
    ⟨"Stock", "Stock.java",
      [shopUse "RestController" .absent,
        shopUse "RequestMapping" (.constant "Urls" "STOCK")],
      [shopHandler]⟩]

/-- The first mapping of the first controller is written below both prefixes, the second one
is reported once, and the second controller is reported and left out. -/
theorem shopModel_accounted :
    (shopModel.emissionsAt (.mapping 0 0 0)).length = 2 * 1 * 1 ∧
      (shopModel.problemsAt (.mapping 0 0 1)).length = 1 ∧
      (shopModel.problemsOfClass 1).length = 1 ∧ shopModel.emissionsOfClass 1 = [] := by
  obtain ⟨-, hClasses, hRoutes⟩ := extract_accounts_for_every_mapping shopModel .empty []
  have hStock := hClasses 1 _ _ _ rfl (by decide) rfl rfl
  have hList := (hRoutes 0 0 0 _ _ _ (some "GET") _ ⟨rfl, by decide, rfl, rfl, by decide⟩ rfl).2
    _ _ rfl rfl
  have hNew := (hRoutes 0 0 1 _ _ _ (some "POST") _ ⟨rfl, by decide, rfl, rfl, by decide⟩ rfl).1
    _ (.url rfl)
  refine ⟨hList.2.1, ?_, ?_, hStock.2⟩
  · rw [hNew.2]
    rfl
  · rw [hStock.1]
    rfl

end SpringAudit

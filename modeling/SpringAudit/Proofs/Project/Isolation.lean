import SpringAudit.Project.Analysis
import SpringAudit.Proofs.Endpoint.Accounting
import SpringAudit.Proofs.Endpoint.Exchange
import SpringAudit.Proofs.Project.Sources

/-!
# Failures do not spread

A run over source files can go wrong in one file or in one annotation.  Either way it
reports one diagnostic more than the run without this file or annotation, and is the
same otherwise (`failures_isolated`).

* `loadSources_append`: files are read independently of each other.
* `extractSources_insert`: a file that cannot be read or parsed.
* `extract_insert`: a route annotation with an argument that is not in order, also if
  the other argument is.
-/

namespace SpringAudit

/-- A run that reports what another one reports and one diagnostic more, behind the first
ones of the other; apart from that they are the same. -/
def Extraction.ReportsAlso (run other : Extraction) (first : List Diagnostic) (d : Diagnostic) :
    Prop :=
  ∃ rest, other.diagnostics = first ++ rest ∧
    run = { other with diagnostics := first ++ d :: rest }

/-! ## One file -/

/-- Reads source files and runs over their model. -/
def extractSources (tree : FileNode) (root : Option Path) (store : EndpointStore)
    (earlier : List Diagnostic) (files : List Path) : Except Fault Extraction := do
  let (model, problems) ← loadSources tree root files
  return extract model store (earlier ++ problems)

/-- The analysis of a project is a run over its source files. -/
theorem Analysis.ofProject_eq (tree : FileNode) (project : Project) (limit : Option Int) :
    ofProject tree project limit = do
      let files ← orLoopFault (tree.sources project.sourceRoots limit)
      let run ← extractSources tree (some project.root) .empty [] files
      return ⟨project, files.length, run⟩ := by
  unfold ofProject extractSources
  cases orLoopFault (tree.sources project.sourceRoots limit) with
  | error fault => rfl
  | ok files =>
      cases hLoad : loadSources tree (some project.root) files with
      | error fault => simp [hLoad, bind, Except.bind]
      | ok loaded => simp [hLoad, bind, Except.bind, pure, Except.pure]

section Files

variable {tree : FileNode} {root : Option Path} {store : EndpointStore}
  {earlier : List Diagnostic} {front back : List Path} {b : Path} {d : Diagnostic}

/-- Reading files one after another is reading each part of the list. -/
theorem loadSources_append (tree : FileNode) (root : Option Path) (front back : List Path) :
    loadSources tree root (front ++ back) = do
      let (first, problems) ← loadSources tree root front
      let (second, more) ← loadSources tree root back
      return (first ++ second, problems ++ more) := by
  unfold loadSources
  rw [List.mapM_append]
  cases front.mapM fun p => SourceOutcome.ofFile tree (sourceLabel root p) p with
  | error fault => rfl
  | ok outcomes =>
      cases back.mapM fun p => SourceOutcome.ofFile tree (sourceLabel root p) p with
      | error fault => rfl
      | ok more => simp [bind, Except.bind, pure, Except.pure]

/-- A file that gives a diagnostic gives nothing else. -/
theorem loadSources_singleton (hFailed : Contributes tree (sourceLabel root b) b (.problem d)) :
    loadSources tree root [b] = .ok ([], [d]) :=
  loadSources_eq_ok_iff.2 ⟨[.problem d], .cons hFailed .nil, rfl, rfl⟩

/-- A file that gives a diagnostic adds it behind those of the files in front, and nothing
else. -/
theorem extractSources_insert
    (hFailed : Contributes tree (sourceLabel root b) b (.problem d)) :
    (∀ fault, extractSources tree root store earlier (front ++ b :: back) = .error fault ↔
      extractSources tree root store earlier (front ++ back) = .error fault) ∧
    ∀ run, extractSources tree root store earlier (front ++ back) = .ok run →
      ∃ model problems run', loadSources tree root front = .ok (model, problems) ∧
        extractSources tree root store earlier (front ++ b :: back) = .ok run' ∧
        run'.ReportsAlso run (earlier ++ problems) d := by
  have hCons : front ++ b :: back = front ++ ([b] ++ back) := rfl
  unfold extractSources
  rw [hCons, loadSources_append, loadSources_append, loadSources_append,
    loadSources_singleton hFailed]
  cases loadSources tree root front with
  | error fault => simp [bind, Except.bind]
  | ok first =>
      obtain ⟨model, problems⟩ := first
      cases loadSources tree root back with
      | error fault => simp [bind, Except.bind]
      | ok second =>
          obtain ⟨model', problems'⟩ := second
          refine ⟨by simp [bind, Except.bind, pure, Except.pure], ?_⟩
          intro run hRun
          obtain rfl := Except.ok.inj hRun
          refine ⟨model, problems, _, rfl, rfl, problems' ++ (model ++ model').problems, ?_, ?_⟩
          · simp [extract_eq]
          · simp [extract_eq]

end Files

/-! ## One annotation -/

/-- A route annotation with an argument that is not in order writes nothing, even if its URLs
are known. -/
theorem AnnotationUse.routeEndpoints_eq_nil_of_fails {b : AnnotationUse} {fixed : Option Text}
    {e : ResolutionError} (hMarker : b.marker? = some (.route fixed)) (hFails : b.Fails fixed e)
    (guards : Guards) : b.routeEndpoints guards = [] := by
  cases hFails with
  | url hUrls => simp only [routeEndpoints, hMarker, hUrls]
  | httpMethod hUrls hMethods => simp only [routeEndpoints, hMarker, hUrls, hMethods]

section Annotations

variable {model : SourceModel} {i j : Nat} {c : AnnotatedClass} {m : AnnotatedMethod}
  {found : List Text} {front back : List AnnotationUse} {b : AnnotationUse}
  {fixed : Option Text} {e : ResolutionError}

/-- A route annotation with an argument that is not in order adds its diagnostic to a handler,
and nothing else. -/
theorem extract_insert (hAt : model.MethodAt i j c m) (hController : c.isController = true)
    (hPrefixes : c.prefixes = .ok found) (hUses : m.annotations = front ++ back)
    (hHandler : m.hasAny Marker.routeNames = true) (hMarker : b.marker? = some (.route fixed))
    (hFails : b.Fails fixed e) (store : EndpointStore) (earlier : List Diagnostic) :
    ∃ problems,
      (extract (model.withAnnotationsAt i j (front ++ [b] ++ back)) store earlier).ReportsAlso
        (extract model store earlier) (earlier ++ problems) (e.diagnostic b) := by
  have hExchange : m.Exchange front [] [b] back := by
    refine ⟨by rw [hUses, List.append_nil], fun a hMem => ?_⟩
    obtain rfl := List.mem_singleton.1 hMem
    exact AnnotationUse.not_isGuard_of_marker hMarker
  have hEmissions := SourceModel.emissions_exchange hAt hExchange (fun guards => by
    rw [List.flatMap_singleton, List.flatMap_nil,
      AnnotationUse.routeEndpoints_eq_nil_of_fails hMarker hFails])
  -- The method is a handler already, so the annotation does not make it one.
  have hHandler' : (m.withAnnotations (front ++ [b] ++ back)).hasAny Marker.routeNames =
      m.hasAny Marker.routeNames := by
    have hMem : b ∈ (m.withAnnotations (front ++ [b] ++ back)).annotations := by
      simp [AnnotatedMethod.withAnnotations]
    rw [hHandler, AnnotatedMethod.hasAny_routeNames_of_mem hMem
      (AnnotationUse.isRoute_of_marker hMarker)]
  obtain ⟨problems, rest, hOld, hNew⟩ :=
    SourceModel.problems_exchange hAt hController hPrefixes hExchange
  rw [List.filterMap_nil, List.append_nil] at hOld
  rw [List.filterMap_cons_some (AnnotationUse.routeProblem?_eq_of_fails hMarker hFails),
    List.filterMap_nil] at hNew
  refine ⟨problems, rest, ?_, ?_⟩
  · rw [extract_eq, hOld, List.append_assoc]
  · rw [extract_eq, extract_eq, hEmissions, hNew,
      SourceModel.length_controllers_withAnnotationsAt hAt.cls,
      SourceModel.length_countedHandlers_withAnnotationsAt hAt hHandler']
    simp only [List.append_assoc, List.singleton_append]

/-- The annotation is a route at its place in the new model. -/
theorem SourceModel.MethodAt.routeAt_insert (hAt : model.MethodAt i j c m)
    (hController : c.isController = true) (hMarker : b.marker? = some (.route fixed)) :
    (model.withAnnotationsAt i j (front ++ [b] ++ back)).RouteAt i j front.length
      (c.withAnnotationsAt j (front ++ [b] ++ back)) (m.withAnnotations (front ++ [b] ++ back)) b
      fixed where
  cls := hAt.withAnnotationsAt.cls
  controller := hController
  method := hAt.withAnnotationsAt.method
  use := by simp [AnnotatedMethod.withAnnotations]
  route := hMarker

end Annotations

/-- Failures do not spread.  Inserting a file that cannot be read or parsed anywhere into a list
of files changes a run over the list only by one diagnostic against this file, which stands
behind those of the files in front of it; a run that a fault ends, the same fault ends.
Inserting a route annotation with an argument that is not in order anywhere among the
annotations of a handler, in a controller with known prefixes, changes a run over the model
only by one diagnostic as well.  The annotation writes nothing and is reported once. -/
theorem failures_isolated :
    (∀ (tree : FileNode) (root : Option Path) (front back : List Path) (b : Path)
        (d : Diagnostic), Contributes tree (sourceLabel root b) b (.problem d) →
      d.path = sourceLabel root b ∧ d.kind = .unreadableSource ∧
      ∀ store earlier,
        (∀ fault, extractSources tree root store earlier (front ++ b :: back) = .error fault ↔
          extractSources tree root store earlier (front ++ back) = .error fault) ∧
        ∀ run, extractSources tree root store earlier (front ++ back) = .ok run →
          ∃ model problems run', loadSources tree root front = .ok (model, problems) ∧
            extractSources tree root store earlier (front ++ b :: back) = .ok run' ∧
            run'.ReportsAlso run (earlier ++ problems) d) ∧
    ∀ (model : SourceModel) (i j : Nat) (c : AnnotatedClass) (m : AnnotatedMethod)
        (found : List Text) (front back : List AnnotationUse) (b : AnnotationUse)
        (fixed : Option Text) (e : ResolutionError),
      model.MethodAt i j c m → c.isController = true → c.prefixes = .ok found →
      m.annotations = front ++ back → m.hasAny Marker.routeNames = true →
      b.marker? = some (.route fixed) → b.Fails fixed e →
      (∀ store earlier, ∃ problems,
        (extract (model.withAnnotationsAt i j (front ++ [b] ++ back)) store earlier).ReportsAlso
          (extract model store earlier) (earlier ++ problems) (e.diagnostic b)) ∧
      (model.withAnnotationsAt i j (front ++ [b] ++ back)).emissionsAt
        (.mapping i j front.length) = [] ∧
      (model.withAnnotationsAt i j (front ++ [b] ++ back)).problemsAt
        (.mapping i j front.length) = [(.mapping i j front.length, e.diagnostic b)] := by
  constructor
  · intro tree root front back b d hFailed
    obtain ⟨hPath, hKind⟩ := hFailed.diagnostic
    exact ⟨hPath, hKind, fun store earlier => extractSources_insert hFailed⟩
  · intro model i j c m found front back b fixed e hAt hController hPrefixes hUses hHandler
      hMarker hFails
    obtain ⟨hEmissions, hProblems⟩ :=
      (hAt.routeAt_insert hController hMarker).account_of_fails hPrefixes hFails
    exact ⟨extract_insert hAt hController hPrefixes hUses hHandler hMarker hFails, hEmissions,
      hProblems⟩

/-- A mapping whose URL is known and whose HTTP method is no constant. -/
def shopHalfKnown : AnnotationUse :=
  ⟨"RequestMapping", "RequestMapping", "shop",
    .ofList [("value", .literal "recent"), ("method", .literal "GET")]⟩

/-- A missing file among two, and a mapping that is half known behind the first one of a
handler. -/
theorem shopFailures_isolated :
    (∃ run run',
      extractSources (singleSource "class A\x7b\x7d") none .empty [] [.absolute ["A.java"]] =
        .ok run ∧
      extractSources (singleSource "class A\x7b\x7d") none .empty []
        [.absolute ["A.java"], .absolute ["B.java"]] = .ok run' ∧
      run'.diagnostics.length = run.diagnostics.length + 1) ∧
    (shopModel.withAnnotationsAt 0 0 (shopHandler.annotations.take 1 ++ [shopHalfKnown] ++
      shopHandler.annotations.drop 1)).emissionsAt (.mapping 0 0 1) = [] := by
  obtain ⟨hFiles, hAnnotations⟩ := failures_isolated
  constructor
  · obtain ⟨-, -, hInsert⟩ := hFiles (singleSource "class A\x7b\x7d") none
      [.absolute ["A.java"]] [] (.absolute ["B.java"]) _ (.unreadable rfl)
    have hReads : (extractSources (singleSource "class A\x7b\x7d") none .empty []
        [.absolute ["A.java"]]).isOk = true := by
      decide +kernel
    cases hRun : extractSources (singleSource "class A\x7b\x7d") none .empty []
        [.absolute ["A.java"]] with
    | error fault =>
        rw [hRun] at hReads
        cases hReads
    | ok run =>
        obtain ⟨model, problems, run', -, hRun', rest, hRest, rfl⟩ :=
          (hInsert .empty []).2 run hRun
        exact ⟨run, _, rfl, hRun', by simp [hRest]; omega⟩
  · exact (hAnnotations shopModel 0 0 _ shopHandler _ (shopHandler.annotations.take 1)
      (shopHandler.annotations.drop 1) shopHalfKnown none _ ⟨rfl, rfl⟩ (by decide) rfl rfl
      (by decide) (by decide) (.httpMethod rfl rfl)).2.1

end SpringAudit

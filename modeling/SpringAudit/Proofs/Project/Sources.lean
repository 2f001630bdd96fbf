import SpringAudit.Project.Sources
import SpringAudit.Proofs.Java.Reading
import SpringAudit.Proofs.Source.Conversion

/-!
# What a list of source files gives

A file that cannot be read, or whose text reading or conversion describes a fault
of, is passed over with one diagnostic.  There are texts on which neither happens
(`SourceAbandoned`): then the whole run ends, whatever the other files hold.

* `Contributes`: what one file gives, classes or one diagnostic.
* `loadSources_account`: the model and the diagnostics of a list of files, and
  the exact condition under which there are none.
-/

namespace SpringAudit

open Java

/-! ## One text -/

/-- A text that gives neither classes nor a description: reading stops on it, or an annotation
that the model keeps holds a string literal that cannot be decoded. -/
inductive SourceAbandoned (source : Text) : Prop where
  | reading (hReading : ReadingStops source)
  | decoding {tree : CompilationUnit} (hTree : CompilationUnit.parse source = .ok tree)
      (hLiteral : tree.Undecodable)

theorem classesOfSource_eq_abandoned_iff (filePath : Text) {source : Text} :
    classesOfSource filePath source = .error .abandoned ↔ SourceAbandoned source := by
  constructor
  · intro h
    cases hTree : CompilationUnit.parse source with
    | error failure =>
        obtain rfl : failure = .abandoned := by
          simpa [classesOfSource, hTree, bind, Except.bind] using h
        exact .reading (parse_eq_abandoned_iff.1 hTree)
    | ok tree =>
        cases hClasses : CompilationUnit.classes filePath tree with
        | error e => exact .decoding hTree ((isError_classes filePath).1 ⟨e, hClasses⟩)
        | ok classes =>
            simp [classesOfSource, hTree, hClasses, bind, Except.bind, pure, Except.pure] at h
  · intro h
    cases h with
    | reading hReading =>
        rw [classesOfSource, bind_eq_error_iff]
        exact .inl (parse_eq_abandoned_iff.2 hReading)
    | decoding hTree hLiteral =>
        obtain ⟨e, hClasses⟩ := (isError_classes filePath).2 hLiteral
        cases e
        simp [classesOfSource, hTree, hClasses, bind, Except.bind, throw, throwThe,
          MonadExceptOf.throw]

/-! ## One file -/

/-- A file that can be read and whose text is abandoned. -/
def FileAbandoned (tree : FileNode) (p : Path) : Prop :=
  ∃ octets, tree.read p = .ok octets ∧ SourceAbandoned (Text.ofUtf8Lenient octets)

/-- What a file may give: its classes, or one diagnostic that says why there are none. -/
inductive Contributes (tree : FileNode) (label : Text) (p : Path) : SourceOutcome → Prop where
  | classes {octets : List UInt8} {found : List AnnotatedClass}
      (hRead : tree.read p = .ok octets)
      (hClasses : classesOfSource label (Text.ofUtf8Lenient octets) = .ok found) :
      Contributes tree label p (.classes found)
  | unreadable {e : AccessError} (hRead : tree.read p = .error e) :
      Contributes tree label p (.problem (unreadable label p e))
  | lexical {octets : List UInt8} {e : LexicalError} (hRead : tree.read p = .ok octets)
      (hSource : classesOfSource label (Text.ofUtf8Lenient octets) = .error (.lexical e)) :
      Contributes tree label p (.problem (unparsable label e.message))
  | syntactic {octets : List UInt8} {description : Text} (hRead : tree.read p = .ok octets)
      (hSource : classesOfSource label (Text.ofUtf8Lenient octets) =
        .error (.syntactic description)) :
      Contributes tree label p (.problem (unparsable label description))

variable {tree : FileNode} {label : Text} {p : Path}

/-- The diagnostic of a file is against its label and of one kind. -/
theorem Contributes.diagnostic {d : Diagnostic} (h : Contributes tree label p (.problem d)) :
    d.path = label ∧ d.kind = .unreadableSource := by
  cases h with
  | unreadable => exact ⟨rfl, rfl⟩
  | lexical => exact ⟨rfl, rfl⟩
  | syntactic => exact ⟨rfl, rfl⟩

theorem ofFile_eq_ok_iff {outcome : SourceOutcome} :
    SourceOutcome.ofFile tree label p = .ok outcome ↔ Contributes tree label p outcome := by
  constructor
  · intro h
    unfold SourceOutcome.ofFile SourceOutcome.ofText at h
    cases hRead : tree.read p with
    | error e =>
        rw [hRead] at h
        obtain rfl := Except.ok.inj h
        exact .unreadable hRead
    | ok octets =>
        rw [hRead] at h
        dsimp only at h
        cases hSource : classesOfSource label (Text.ofUtf8Lenient octets) with
        | ok found =>
            rw [hSource] at h
            obtain rfl := Except.ok.inj h
            exact .classes hRead hSource
        | error failure =>
            rw [hSource] at h
            cases failure with
            | lexical e =>
                obtain rfl := Except.ok.inj h
                exact .lexical hRead hSource
            | syntactic description =>
                obtain rfl := Except.ok.inj h
                exact .syntactic hRead hSource
            | abandoned => cases h
  · intro h
    unfold SourceOutcome.ofFile SourceOutcome.ofText
    cases h with
    | classes hRead hClasses => simp only [hRead, hClasses]
    | unreadable hRead => simp only [hRead]
    | lexical hRead hSource => simp only [hRead, hSource]
    | syntactic hRead hSource => simp only [hRead, hSource]

theorem ofFile_eq_error_iff {fault : Fault} :
    SourceOutcome.ofFile tree label p = .error fault ↔
      FileAbandoned tree p ∧ fault = .abandonedSource label := by
  unfold SourceOutcome.ofFile SourceOutcome.ofText FileAbandoned
  cases hRead : tree.read p with
  | error e => simp
  | ok octets =>
      simp only [Except.ok.injEq, exists_eq_left',
        ← classesOfSource_eq_abandoned_iff label]
      cases hSource : classesOfSource label (Text.ofUtf8Lenient octets) with
      | ok found => simp
      | error failure => cases failure <;> simp [eq_comm]

/-- A file ends the run exactly if it is abandoned. -/
theorem isError_ofFile : IsError (SourceOutcome.ofFile tree label p) ↔ FileAbandoned tree p := by
  constructor
  · rintro ⟨fault, h⟩
    exact (ofFile_eq_error_iff.1 h).1
  · intro h
    exact ⟨.abandonedSource label, ofFile_eq_error_iff.2 ⟨h, rfl⟩⟩

/-! ## All files -/

/-- What the files of a list give, one after another. -/
def AllContribute (tree : FileNode) (root : Option Path) (files : List Path)
    (outcomes : List SourceOutcome) : Prop :=
  List.Forall₂ (fun p outcome => Contributes tree (sourceLabel root p) p outcome) files outcomes

variable {root : Option Path} {files : List Path}

theorem loadSources_eq_ok_iff {model : SourceModel} {diagnostics : List Diagnostic} :
    loadSources tree root files = .ok (model, diagnostics) ↔
      ∃ outcomes, AllContribute tree root files outcomes ∧
        model = outcomes.flatMap SourceOutcome.toClasses ∧
        diagnostics = outcomes.filterMap SourceOutcome.toProblem? := by
  rw [loadSources, bind_eq_ok_iff]
  constructor
  · rintro ⟨outcomes, hOutcomes, hResult⟩
    obtain ⟨rfl, rfl⟩ := Prod.mk.inj (Except.ok.inj hResult)
    refine ⟨outcomes, ?_, rfl, rfl⟩
    exact (mapM_eq_ok_iff.1 hOutcomes).imp fun p outcome h => ofFile_eq_ok_iff.1 h
  · rintro ⟨outcomes, hAll, rfl, rfl⟩
    exact ⟨outcomes, mapM_eq_ok_iff.2 (hAll.imp fun p outcome h => ofFile_eq_ok_iff.2 h), rfl⟩

theorem loadSources_eq_error_iff {fault : Fault} :
    loadSources tree root files = .error fault ↔
      ∃ front p back, files = front ++ p :: back ∧ (∀ q ∈ front, ¬ FileAbandoned tree q) ∧
        FileAbandoned tree p ∧ fault = .abandonedSource (sourceLabel root p) := by
  rw [loadSources, bind_pure_eq_error_iff, mapM_eq_error_iff]
  simp only [isError_ofFile, ofFile_eq_error_iff]

theorem isError_loadSources :
    IsError (loadSources tree root files) ↔ ∃ p ∈ files, FileAbandoned tree p := by
  rw [loadSources, isError_bind_pure, isError_mapM]
  simp only [isError_ofFile]

/-- The account of a list of files.  Loading gives a model exactly if no file that can be read
holds a text that is abandoned.  Then every file in turn contributes its classes, or one
diagnostic against its label and nothing else.  Otherwise the first abandoned file ends the
loading, and there is no diagnostic of any file. -/
theorem loadSources_account (tree : FileNode) (root : Option Path) (files : List Path) :
    ((∃ result, loadSources tree root files = .ok result) ↔
      ∀ p ∈ files, ¬ FileAbandoned tree p) ∧
    (∀ model diagnostics, loadSources tree root files = .ok (model, diagnostics) →
      ∃ outcomes, AllContribute tree root files outcomes ∧
        model = outcomes.flatMap SourceOutcome.toClasses ∧
        diagnostics = outcomes.filterMap SourceOutcome.toProblem? ∧
        ∀ p d, Contributes tree (sourceLabel root p) p (.problem d) →
          d.path = sourceLabel root p ∧ d.kind = .unreadableSource) ∧
    ∀ fault, loadSources tree root files = .error fault ↔
      ∃ front p back, files = front ++ p :: back ∧ (∀ q ∈ front, ¬ FileAbandoned tree q) ∧
        FileAbandoned tree p ∧ fault = .abandonedSource (sourceLabel root p) := by
  refine ⟨?_, ?_, fun fault => loadSources_eq_error_iff⟩
  · rw [← not_isError_iff, isError_loadSources]
    simp only [not_exists, not_and]
  · intro model diagnostics h
    obtain ⟨outcomes, hAll, hModel, hDiagnostics⟩ := loadSources_eq_ok_iff.1 h
    exact ⟨outcomes, hAll, hModel, hDiagnostics, fun p d => Contributes.diagnostic⟩

/-- A tree with one source file of ASCII characters. -/
def singleSource (source : Text) : FileNode :=
  .directory [("A.java", .file (source.map fun c => UInt8.ofNat c.toNat))]

/-- A class with an annotation whose only literal is a backslash before a letter `u`; the
backslash itself is written as an escape. -/
def undecodableSource : Text :=
  "@A(\"\\u005cu\")class B\x7b\x7d"

/-- The one file of a list can end the run, though it can be read and parsed. -/
theorem loadSources_undecodableSource :
    ¬ ∃ result, loadSources (singleSource undecodableSource) none [.absolute ["A.java"]] =
      .ok result := by
  have hFails : (loadSources (singleSource undecodableSource) none
      [.absolute ["A.java"]]).isOk = false := by
    decide +kernel
  rintro ⟨result, hResult⟩
  rw [hResult] at hFails
  cases hFails

end SpringAudit

import SpringAudit.Endpoint.Extraction
import SpringAudit.Project.Basic
import SpringAudit.Project.Scan
import SpringAudit.Project.Sources

/-!
# The analysis of a project

The sources of a project are found and read, and their endpoints extracted.  The
diagnostics of reading come before those of the extraction.
-/

namespace SpringAudit

/-- The analysis of a project. -/
structure Analysis where
  project : Project
  filesScanned : Nat
  extraction : Extraction

namespace Analysis

/-- The endpoints of the project in the order of reports. -/
def endpoints (a : Analysis) : List Endpoint :=
  sortEndpoints a.extraction.store.values

/-- The diagnostics of the analysis. -/
def diagnostics (a : Analysis) : List Diagnostic :=
  a.extraction.diagnostics

/-- Whether anything was left out. -/
def failed (a : Analysis) : Bool :=
  a.extraction.failed

/-- Analyses a project, with at most a number of source files if there is a limit.  Files are
labelled by their paths from the root of the project. -/
def ofProject (tree : FileNode) (project : Project) (limit : Option Int) :
    Except Fault Analysis := do
  let files ← orLoopFault (tree.sources project.sourceRoots limit)
  let (model, problems) ← loadSources tree (some project.root) files
  return ⟨project, files.length, extract model .empty problems⟩

/-- Analyses the project in a directory. -/
def ofDirectory (tree : FileNode) (directory : Path) (limit : Option Int) :
    Except LoadError Analysis := do
  let project ← Project.ofDirectory tree directory
  (ofProject tree project limit).mapError LoadError.fault

end Analysis

end SpringAudit

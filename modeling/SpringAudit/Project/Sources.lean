import SpringAudit.Diagnostic
import SpringAudit.Project.Failure
import SpringAudit.Source.OfSyntax
import SpringAudit.Text.Utf8

/-!
# Reading source files

A file that cannot be read or parsed gives one diagnostic and no classes; the
others are not affected.
-/

namespace SpringAudit

/-- What a source file contributes. -/
inductive SourceOutcome where
  | classes (found : List AnnotatedClass)
  | problem (diagnostic : Diagnostic)

namespace SourceOutcome

/-- The classes of a file. -/
def toClasses : SourceOutcome → List AnnotatedClass
  | .classes found => found
  | .problem _ => []

/-- The diagnostic of a file, if there is one. -/
def toProblem? : SourceOutcome → Option Diagnostic
  | .classes _ => none
  | .problem diagnostic => some diagnostic

end SourceOutcome

/-- The diagnostic of a file that cannot be read. -/
def unreadable (label : Text) (p : Path) (e : AccessError) : Diagnostic :=
  ⟨label, "Could not read source file: [Errno " ++ Text.ofNat e.number ++ "] " ++
    e.description ++ ": " ++ p.toText.quoted, .unreadableSource⟩

/-- The diagnostic of a file that cannot be parsed. -/
def unparsable (label detail : Text) : Diagnostic :=
  ⟨label, "Could not parse source file: " ++ detail, .unreadableSource⟩

/-- What a text contributes as source file under a label. -/
def SourceOutcome.ofText (label source : Text) : Except Fault SourceOutcome :=
  match classesOfSource label source with
  | .ok found => .ok (.classes found)
  | .error (.lexical e) => .ok (.problem (unparsable label e.message))
  | .error (.syntactic description) => .ok (.problem (unparsable label description))
  | .error .abandoned => .error (.abandonedSource label)

/-- What a file contributes under a label. -/
def SourceOutcome.ofFile (tree : FileNode) (label : Text) (p : Path) :
    Except Fault SourceOutcome :=
  match tree.read p with
  | .error e => .ok (.problem (unreadable label p e))
  | .ok octets => SourceOutcome.ofText label (Text.ofUtf8Lenient octets)

/-- The label of a file: its path from the project's root, or its whole path. -/
def sourceLabel (root : Option Path) (p : Path) : Text :=
  match root with
  | some start => p.relativeText start
  | none => p.toText

/-- The model of several files and the diagnostics of those that gave none. -/
def loadSources (tree : FileNode) (root : Option Path) (files : List Path) :
    Except Fault (SourceModel × List Diagnostic) := do
  let outcomes ← files.mapM fun p => SourceOutcome.ofFile tree (sourceLabel root p) p
  return (outcomes.flatMap SourceOutcome.toClasses, outcomes.filterMap SourceOutcome.toProblem?)

end SpringAudit

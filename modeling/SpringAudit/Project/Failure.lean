import SpringAudit.FileTree.Resolve
import SpringAudit.Xml.Error

/-!
# Failures and faults

Most problems are reported and passed over.  A failure means that a project is not
loaded, and is reported with its message.  A fault ends the run without any report.
-/

namespace SpringAudit

/-- Why a run ends without a report. -/
inductive Fault where
  /-- The links on a path form a loop. -/
  | linkLoop (path : Path)
  /-- Reading a source file stopped without a description. -/
  | abandonedSource (label : Text)
  /-- A build descriptor declares an encoding that is not known. -/
  | unknownEncoding (file : Path)
  /-- A path starts with the home directory of an unknown user. -/
  | unknownHome

/-- The result with a loop of links as a fault. -/
def orLoopFault {α : Type} : Except LinkLoop α → Except Fault α
  | .ok result => .ok result
  | .error loop => .error (.linkLoop loop.path)

/-- Why no source roots are known for a directory. -/
inductive ProjectFailure where
  | noPath (root : Path)
  | noDirectory (root : Path)
  | noDescriptor (root : Path)
  | noPom (directory : Path)
  | malformedPom (file : Path) (error : Xml.Error)
  | noModuleDirectory (directory : Path)

namespace ProjectFailure

/-- The message of a failure without the details of an error in a build descriptor. -/
def summary : ProjectFailure → Text
  | .noPath root => "Project path does not exist: " ++ root.toText
  | .noDirectory root => "Project path is not a directory: " ++ root.toText
  | .noDescriptor root =>
    "No build descriptor (pom.xml, build.gradle) found in " ++ root.toText
  | .noPom directory => "Maven module has no pom.xml: " ++ directory.toText
  | .malformedPom file _ => "Malformed build descriptor " ++ file.toText
  | .noModuleDirectory directory =>
    "Maven module directory not found: " ++ directory.toText

/-- The message of a failure. -/
def message (failure : ProjectFailure) : Text :=
  match failure with
  | .malformedPom _ error => failure.summary ++ ": " ++ error.message
  | _ => failure.summary

end ProjectFailure

/-- Why a project is not loaded. -/
inductive LoadError where
  | failure (reason : ProjectFailure)
  | fault (reason : Fault)

/-- The result with a loop of links as an error of loading. -/
def orLoadError {α : Type} (outcome : Except LinkLoop α) : Except LoadError α :=
  (orLoopFault outcome).mapError LoadError.fault

end SpringAudit

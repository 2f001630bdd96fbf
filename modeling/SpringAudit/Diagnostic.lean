import SpringAudit.Text.Basic

/-!
# Diagnostics

A diagnostic says where and why something was left out of a report.  A run that
has any counts as failed.
-/

namespace SpringAudit

/-- The kinds of problems. -/
inductive ProblemKind where
  | invalidArgument
  | unexpectedMethod
  | unreadableSource
  deriving DecidableEq

namespace ProblemKind

/-- All kinds. -/
def all : List ProblemKind :=
  [.invalidArgument, .unexpectedMethod, .unreadableSource]

/-- The name of a kind. -/
def name : ProblemKind → Text
  | .invalidArgument => "InvalidAnnotationArgument"
  | .unexpectedMethod => "UnexpectedRequestMethodValue"
  | .unreadableSource => "SourceParseError"

/-- The kind of a name. -/
def ofName? (name : Text) : Option ProblemKind :=
  all.find? fun kind => decide (kind.name = name)

end ProblemKind

/-- A problem and its place. -/
structure Diagnostic where
  path : Text
  message : Text
  kind : ProblemKind
  deriving DecidableEq

/-- The line that reports a diagnostic. -/
def Diagnostic.line (d : Diagnostic) : Text :=
  "[" ++ d.path ++ "] Error: " ++ d.message

end SpringAudit

import SpringAudit.CommandLine.Options
import SpringAudit.Project.Analysis
import SpringAudit.Report.Table
import SpringAudit.Report.Text

/-!
# A run of the command

A run looks at the command line, the project's name and the format in this order
before it reads any file.  It succeeds if the project is loaded and the analysis
has no diagnostics; the report is printed in either case.
-/

namespace SpringAudit

/-- The formats of reports. -/
inductive ReportFormat where
  | lines
  | table
  | json
  deriving DecidableEq

namespace ReportFormat

/-- All formats. -/
def all : List ReportFormat := [.lines, .table, .json]

/-- The name of a format. -/
def name : ReportFormat → Text
  | .lines => "lines"
  | .table => "table"
  | .json => "json"

/-- The format of a name in any case and with blanks around it. -/
def ofName? (written : Text) : Option ReportFormat :=
  all.find? fun format => decide (format.name = written.lowerAscii.strip)

end ReportFormat

/-- The message of a usage error. -/
def UsageError.message : UsageError → Text
  | .unknownOption name => "no such option: " ++ name
  | .missingValue name => "option " ++ name ++ " requires an argument"
  | .unexpectedValue name => "option " ++ name ++ " does not take a value"
  | .badInteger value => value.quoted ++ " is not a valid integer"
  | .unexpectedArgument argument => "got unexpected extra argument " ++ argument.quoted
  | .unknownFormat _ =>
    "format must be one of: " ++ Text.join ", " (ReportFormat.all.map ReportFormat.name)

/-- Where a run takes place. -/
structure Surroundings where
  tree : FileNode
  workingDirectory : Path
  home : Option Path

/-- The absolute path of a directory that a text names; a tilde stands for the home
directory. -/
def Surroundings.directoryOf (place : Surroundings) (written : Text) : Except Fault Path :=
  let p := Path.ofText written
  if p.isAbsolute then .ok p
  else
    match p.names with
    | [] => .ok place.workingDirectory
    | first :: rest =>
      if first.startsWith "~" then
        match place.home with
        | some home =>
          if first = ("~" : Text) then .ok { home with names := home.names ++ rest }
          else .error .unknownHome
        | none => .error .unknownHome
      else .ok (place.workingDirectory.join written)

/-- A part of a line on the console. -/
inductive Span where
  | plain (text : Text)
  | bold (text : Text)

/-- A part of a line with marks around what is bold. -/
def Span.markup : Span → Text
  | .plain text => text
  | .bold text => "[bold]" ++ text ++ "[/bold]"

/-- One thing that is shown on the console. -/
inductive ConsoleItem where
  | line (spans : List Span)
  | table (content : Table)

/-- What a run leaves behind. -/
structure Outcome where
  exitCode : Nat
  /-- What is written to standard output as it is. -/
  output : Text
  console : List ConsoleItem
  /-- The messages on standard error. -/
  errors : List Text
  usageError : Option UsageError

namespace Outcome

/-- The outcome of a command line that cannot be understood. -/
def ofUsageError (e : UsageError) : Outcome := ⟨2, [], [], [], some e⟩

/-- The outcome of a run that fails with a message. -/
def ofFailure (message : Text) : Outcome := ⟨1, [], [], ["Error: " ++ message], none⟩

end Outcome

/-- The lines of a report as output, which is empty without endpoints. -/
def linesOutput (endpoints : List Endpoint) : Text :=
  if endpoints.isEmpty then [] else linesReport endpoints ++ "\n"

/-- The line that heads a table. -/
def Analysis.heading (a : Analysis) : ConsoleItem :=
  .line [.bold a.project.buildTool.name,
    .plain (" project: " ++ a.project.root.toText ++ " (" ++ Text.ofNat a.filesScanned ++
      " files, " ++ Text.ofNat a.extraction.controllers ++ " controllers)")]

/-- The line that ends a table. -/
def totalLine (endpoints : List Endpoint) : ConsoleItem :=
  .line [.plain "Routes: ", .bold (Text.ofNat endpoints.length)]

/-- The endpoints that a report shows. -/
def Analysis.shownEndpoints (a : Analysis) (unguardedOnly : Bool) : List Endpoint :=
  if unguardedOnly then unguardedEndpoints a.endpoints else a.endpoints

/-- The outcome of a run with an analysis. -/
def Outcome.ofAnalysis (format : ReportFormat) (unguardedOnly : Bool) (a : Analysis) :
    Outcome :=
  let shown := a.shownEndpoints unguardedOnly
  let errors := a.diagnostics.map Diagnostic.line
  let exitCode := if a.failed then 1 else 0
  match format with
  | .lines => ⟨exitCode, linesOutput shown, [], errors, none⟩
  | .json => ⟨exitCode, jsonReport shown ++ "\n", [], errors, none⟩
  | .table =>
    ⟨exitCode, [], [a.heading, .table (tableReport shown), totalLine shown], errors, none⟩

/-- A run in a format over the project that a text names. -/
def runOver (place : Surroundings) (options : Options) (limit : Option Int)
    (format : ReportFormat) (project : Text) : Except Fault Outcome := do
  let directory ← place.directoryOf project
  match Analysis.ofDirectory place.tree directory limit with
  | .ok a => return .ofAnalysis format options.unguardedOnly a
  | .error (.failure reason) => return .ofFailure reason.message
  | .error (.fault reason) => .error reason

/-- A run with options that are understood. -/
def runWith (place : Surroundings) (options : Options) (limit : Option Int) :
    Option Text → Except Fault Outcome
  | none => .ok (.ofFailure "Please provide the project path as a command-line argument.")
  | some project =>
    match ReportFormat.ofName? options.format with
    | none => .ok (.ofUsageError (.unknownFormat options.format))
    | some format => runOver place options limit format project

/-- A run with a command line. -/
def run (place : Surroundings) (arguments : List Text) : Except Fault Outcome :=
  let understood : Except UsageError (Options × Option Int × Option Text) := do
    let options ← Options.ofArguments arguments
    return (options, ← options.limit, ← options.project?)
  match understood with
  | .error e => .ok (.ofUsageError e)
  | .ok (options, limit, project) => runWith place options limit project

end SpringAudit

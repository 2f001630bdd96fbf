import SpringAudit.CommandLine.Run

/-!
# The command

The command takes from disk what a run may look at: the directory that the
command line names, what links in it lead to, and the modules and source roots
that lie elsewhere.  Then it runs over that tree and prints the outcome.
-/

namespace SpringAudit

/-- The string of a text; a lone surrogate is shown as U+FFFD. -/
def shownText (t : Text) : String :=
  String.ofList (t.map fun c => if c.isSurrogate then '\ufffd' else Char.ofNat c.toNat)

/-- Whether the content of a file matters; of other files the names are enough. -/
def isLookedAt (name : Text) : Bool :=
  isSourceName name || decide (name = Maven.descriptorName) ||
    Gradle.settingsFiles.contains name

mutual

/-- The node at an entry of a directory on disk.  The targets of links are noted; a link that
leads nowhere is one to a name that does not exist. -/
partial def readEntry (entry : IO.FS.DirEntry) : StateT (List Path) IO FileNode := do
  let name := Text.ofString entry.fileName
  match (← entry.path.symlinkMetadata).type with
  | .dir => readEntries (try entry.path.readDir catch _ => pure #[])
  | .symlink =>
    try
      let target := Text.ofString (← IO.FS.realPath entry.path).toString
      modify (.ofText target :: ·)
      return .link target
    catch _ => return .link (name ++ ".missing")
  | _ =>
    if isLookedAt name then return .file (← IO.FS.readBinFile entry.path).toList
    else return .file []

/-- The directory with the entries that a listing gives. -/
partial def readEntries (listing : IO (Array IO.FS.DirEntry)) :
    StateT (List Path) IO FileNode := do
  let entries ← listing
  return .directory (← entries.toList.mapM fun entry => do
    return (Text.ofString entry.fileName, ← readEntry entry))

end

/-- The tree with what stands at an absolute path on disk, unless it is there. -/
partial def addFromDisk (tree : FileNode) (p : Path) : IO FileNode := do
  if tree.exists? p then return tree
  else
    try
      let real ← IO.FS.realPath (shownText p.toText)
      let place := Path.ofText (Text.ofString real.toString)
      let (node, targets) ←
        if ← real.isDir then (readEntries real.readDir).run []
        else (pure (.file []) : StateT (List Path) IO FileNode).run []
      let names := Path.normalizeNames p.names
      let found := FileNode.write node tree place.names
      let linked := if names = place.names then found
        else FileNode.write (.link place.toText) found names
      targets.foldlM addFromDisk linked
    catch _ => return tree

/-- The tree with the modules and source roots of a project that lie elsewhere on disk. -/
partial def addModules (tree : FileNode) (directory : Path) : IO FileNode := do
  match buildToolOf? tree directory with
  | none => return tree
  | some tool =>
    match tool.sourceRoots tree directory with
    | .ok roots => roots.foldlM addFromDisk tree
    | .error (.failure (.noModuleDirectory child)) =>
      let more ← addFromDisk tree child
      if more.isDirectoryAt child then addModules more directory else return tree
    | .error _ => return tree

/-- The part of the file system that a run over a directory may look at. -/
def treeFor (directory : Path) : IO FileNode := do
  let tree ← addFromDisk (.directory []) directory
  match tree.resolve directory with
  | .ok root => addModules tree root
  | .error _ => return tree

/-- The directory that a command line names, if it names one. -/
def namedDirectory? (place : Surroundings) (arguments : List Text) : Option Path :=
  match (Options.ofArguments arguments).bind Options.project? with
  | .ok (some written) => (place.directoryOf written).toOption
  | _ => none

/-- A part of a line as it is shown on a terminal. -/
def Span.shown : Span → String
  | .plain text => shownText text
  | .bold text => "\x1b[1m" ++ shownText text ++ "\x1b[0m"

/-- The text of a cell. -/
def Cell.text : Cell → Text
  | .markup text => text
  | .plain text _ => text

/-- A row of a table on one line. -/
def shownRow (cells : List Text) : String :=
  " | ".intercalate (cells.map shownText)

/-- Prints one thing on the console. -/
def ConsoleItem.print : ConsoleItem → IO Unit
  | .line spans => IO.println (String.join (spans.map Span.shown))
  | .table content => do
    IO.println (shownRow (content.columns.map Column.header))
    for row in content.rows do
      IO.println (shownRow (row.map Cell.text))

/-- Prints an outcome and gives its exit code. -/
def Outcome.print (found : Outcome) : IO UInt32 := do
  for message in found.errors do
    IO.eprintln (shownText message)
  match found.usageError with
  | some e => IO.eprintln (shownText ("Error: " ++ e.message))
  | none => pure ()
  IO.print (shownText found.output)
  for item in found.console do
    item.print
  return UInt32.ofNat found.exitCode

/-- The message of a fault. -/
def Fault.message : Fault → Text
  | .linkLoop path => "links form a loop: " ++ path.toText
  | .abandonedSource label => "reading stopped without a description: " ++ label
  | .unknownEncoding file => "unknown encoding: " ++ file.toText
  | .unknownHome => "the home directory is not known"

end SpringAudit

open SpringAudit in
/-- Runs the command with its arguments. -/
def main (arguments : List String) : IO UInt32 := do
  let arguments := arguments.map Text.ofString
  let working := Path.ofText (Text.ofString (← IO.currentDir).toString)
  let home := (← IO.getEnv "HOME").map fun found => Path.ofText (Text.ofString found)
  let place : Surroundings := ⟨.directory [], working, home⟩
  let tree ← match namedDirectory? place arguments with
    | some directory => treeFor directory
    | none => pure place.tree
  match run { place with tree := tree } arguments with
  | .ok found => found.print
  | .error fault => do
    IO.eprintln (shownText ("Error: " ++ fault.message))
    return 1

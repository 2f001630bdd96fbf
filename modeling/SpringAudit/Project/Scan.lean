import SpringAudit.FileTree.Resolve

/-!
# The source files of a project

Maven and Gradle expect sources in the same place, unless a project says otherwise.
The files are those with the ending `.java` below the source roots, outside of
directories with an ignored name.  A root itself may have any name and may be a
link, but below it links to directories are not entered.  Paths are resolved,
each is listed once, and those of one root are sorted.
-/

namespace SpringAudit

/-- The place of the sources below the directory of a project. -/
def defaultSourceDirectory : Text := "src/main/java"

/-- The names of directories that hold no sources of the project. -/
def ignoredNames : List Text :=
  [".git", ".svn", ".idea", ".vscode", ".gradle", ".mvn", "target", "build", "out", "bin",
    "node_modules"].map Text.ofString

/-- Whether a directory is passed over. -/
def isIgnored (p : Path) : Bool :=
  ignoredNames.contains p.lastName

/-- Whether a file name is that of a source file. -/
def isSourceName (name : Text) : Bool :=
  name.endsWith ".java"

mutual

/-- The source files among the entries of a directory and below, links among them unless
they lead to a directory. -/
def sourcesAmong (leadsToDirectory : List Text → Bool) (place : List Text) :
    List (Text × FileNode) → List (List Text)
  | [] => []
  | (name, node) :: rest =>
    sourcesAt leadsToDirectory place name node ++ sourcesAmong leadsToDirectory place rest

/-- The source files that one entry of a directory gives. -/
def sourcesAt (leadsToDirectory : List Text → Bool) (place : List Text) (name : Text) :
    FileNode → List (List Text)
  | .directory entries =>
    if ignoredNames.contains name then []
    else sourcesAmong leadsToDirectory (place ++ [name]) entries
  | .link _ =>
    if isSourceName name && !leadsToDirectory (place ++ [name]) then [place ++ [name]] else []
  | .file _ => if isSourceName name then [place ++ [name]] else []

end

namespace FileNode

/-- The source files below a root, before their paths are resolved. -/
def sourcesBelow (tree : FileNode) (root : Path) : List Path :=
  match tree.locate root with
  | .error _ => []
  | .ok place =>
    match tree.node? place with
    | some node =>
      (sourcesAmong (fun names => tree.isDirectoryAt (.absolute names)) place node.entries).map
        Path.absolute
    | none => []

/-- The resolved source files below a root in their order. -/
def sortedSources (tree : FileNode) (root : Path) : Except LinkLoop (List Path) := do
  let found ← (tree.sourcesBelow root).mapM tree.resolve
  return found.mergeSort Path.ble

/-- The paths of a list that are new, each once. -/
def newPaths (seen : List Path) : List Path → List Path
  | [] => []
  | p :: rest =>
    if seen.contains p then newPaths seen rest else p :: newPaths (p :: seen) rest

/-- The source files below several roots after those found before.  A limit ends the search
once it is reached, which is looked at after each file. -/
def sourcesFrom (tree : FileNode) (limit : Option Int) :
    List Path → List Path → Except LinkLoop (List Path)
  | found, [] => .ok found
  | found, root :: rest => do
    let added := newPaths found (← tree.sortedSources root)
    let all := found ++ added
    match limit with
    | none => tree.sourcesFrom limit all rest
    | some most =>
      if added.isEmpty || Int.ofNat all.length < most then tree.sourcesFrom limit all rest
      else return all.take (max 1 most.toNat)

/-- The source files below several roots, at most a number of them if there is a limit; a
limit below one counts as one. -/
def sources (tree : FileNode) (roots : List Path) (limit : Option Int) :
    Except LinkLoop (List Path) :=
  tree.sourcesFrom limit [] roots

end FileNode

end SpringAudit

import SpringAudit.Project.Failure
import SpringAudit.Project.Scan
import SpringAudit.Xml.Element

/-!
# The source roots of a Maven project

A module has a descriptor, which may name the place of its sources and further
modules.  The modules are visited depth first, each directory once, in the order
in which descriptors name them; directories are told apart by their resolved
paths.  A module that is missing fails the whole project.
-/

namespace SpringAudit.Maven

/-- The name of the descriptor of a module. -/
def descriptorName : Text := "pom.xml"

/-- What a descriptor says about directories. -/
structure Pom where
  sourceDirectory : Text
  modules : List Text

/-- The text of an element without the blanks around it. -/
def strippedText (e : Xml.Element) : Text :=
  e.text.strip

/-- Reads a descriptor.  Its elements stand in the namespace of the root element.  Only the
first source directory counts, and blank texts count as missing. -/
def Pom.ofElement (root : Xml.Element) : Pom where
  sourceDirectory :=
    let builds := root.childrenNamed root.space "build"
    match builds.flatMap (·.childrenNamed root.space "sourceDirectory") with
    | [] => defaultSourceDirectory
    | first :: _ =>
      let written := strippedText first
      if written.isEmpty then defaultSourceDirectory else written
  modules :=
    let lists := root.childrenNamed root.space "modules"
    let entries := lists.flatMap (·.childrenNamed root.space "module")
    (entries.map strippedText).filter (!·.isEmpty)

/-- The descriptor of the module in a directory. -/
def pomOf (tree : FileNode) (directory : Path) : Except LoadError Pom :=
  let file := directory.join descriptorName
  match tree.read file with
  | .error _ => .error (.failure (.noPom directory))
  | .ok octets =>
    match Xml.Element.ofOctets octets with
    | .ok root => .ok (.ofElement root)
    | .error (.malformed error) => .error (.failure (.malformedPom file error))
    | .error .unknownEncoding => .error (.fault (.unknownEncoding file))

/-- How far the search for modules has come. -/
structure Search where
  /-- The resolved directories of the modules found so far. -/
  visited : List Path
  /-- Their source roots, in the order of the visits. -/
  roots : List Path

/-- The search before any visit. -/
def Search.start : Search := ⟨[], []⟩

/-- Visits a directory and the modules below it, nested at most a number of levels. -/
def visit (tree : FileNode) : Nat → Search → Path → Except LoadError Search
  | 0, search, _ => .ok search
  | levels + 1, search, place => do
    let directory ← orLoadError (tree.resolve place)
    if search.visited.contains directory then return search
    else
      let pom ← pomOf tree directory
      let entered : Search :=
        ⟨directory :: search.visited, search.roots ++ [directory.join pom.sourceDirectory]⟩
      pom.modules.foldlM (fun search name =>
        let child := directory.join name
        if tree.isDirectoryAt child then visit tree levels search child
        else .error (.failure (.noModuleDirectory child))) entered

/-- The source roots of a Maven project and its modules.  There are no more levels than
directories, because each level visits a new one. -/
def sourceRoots (tree : FileNode) (root : Path) : Except LoadError (List Path) :=
  (visit tree (tree.directoryCount + 1) .start root).map Search.roots

end SpringAudit.Maven

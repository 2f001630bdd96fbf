import SpringAudit.Project.Gradle
import SpringAudit.Project.Maven

/-!
# Projects

A project is a directory with the descriptor of a build tool, which tells where
its sources are.  A directory with descriptors of both tools counts as Maven
project.  Source roots that are not there are left out.
-/

namespace SpringAudit

/-- The build tools. -/
inductive BuildTool where
  | maven
  | gradle
  deriving DecidableEq

/-- The name of a build tool. -/
def BuildTool.name : BuildTool → Text
  | .maven => "maven"
  | .gradle => "gradle"

/-- A project. -/
structure Project where
  root : Path
  buildTool : BuildTool
  sourceRoots : List Path

/-- The build tool of a directory, if it has any. -/
def buildToolOf? (tree : FileNode) (root : Path) : Option BuildTool :=
  if tree.isFileAt (root.join Maven.descriptorName) then some .maven
  else if Gradle.buildFiles.any fun name => tree.isFileAt (root.join name) then some .gradle
  else none

/-- The source roots that a build tool expects, whether or not they are there. -/
def BuildTool.sourceRoots (tool : BuildTool) (tree : FileNode) (root : Path) :
    Except LoadError (List Path) :=
  match tool with
  | .maven => Maven.sourceRoots tree root
  | .gradle => .ok (Gradle.sourceRoots tree root)

/-- The project in a directory. -/
def Project.ofDirectory (tree : FileNode) (directory : Path) : Except LoadError Project := do
  let root ← orLoadError (tree.resolve directory)
  if !tree.exists? root then .error (.failure (.noPath root))
  else if !tree.isDirectoryAt root then .error (.failure (.noDirectory root))
  else
    match buildToolOf? tree root with
    | none => .error (.failure (.noDescriptor root))
    | some tool =>
      let expected ← tool.sourceRoots tree root
      return ⟨root, tool, expected.filter tree.isDirectoryAt⟩

end SpringAudit

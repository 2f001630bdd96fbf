import SpringAudit.FileTree.Path

/-!
# File trees

A file tree is a directory whose entries are files, links and directories.  The
entries of a directory have an order, in which they are listed.  A path is
followed like an operating system does: each name but the last has to lead to a
directory, links are replaced by their targets, and at most forty of them.
-/

namespace SpringAudit

/-- A file, a link or a directory. -/
inductive FileNode where
  | file (content : List UInt8)
  | link (target : Text)
  | directory (entries : List (Text × FileNode))
  deriving Inhabited

/-- Why a path leads to nothing that can be read. -/
inductive AccessError where
  | notFound
  | notDirectory
  | isDirectory
  | tooManyLinks
  deriving DecidableEq

namespace AccessError

/-- The number of the error. -/
def number : AccessError → Nat
  | .notFound => 2
  | .notDirectory => 20
  | .isDirectory => 21
  | .tooManyLinks => 40

/-- The wording of the error. -/
def description : AccessError → Text
  | .notFound => "No such file or directory"
  | .notDirectory => "Not a directory"
  | .isDirectory => "Is a directory"
  | .tooManyLinks => "Too many levels of symbolic links"

end AccessError

/-- The most links that are followed on the way to one file. -/
def maxLinks : Nat := 40

namespace FileNode

/-- The entries of a directory. -/
def entries : FileNode → List (Text × FileNode)
  | .directory found => found
  | _ => []

/-- Whether the node is a directory. -/
def isDirectory : FileNode → Bool
  | .directory _ => true
  | _ => false

/-- The node at the end of a sequence of names, no link followed. -/
def node? : FileNode → List Text → Option FileNode
  | found, [] => some found
  | .directory entries, name :: rest => (entries.lookup name).bind (node? · rest)
  | _, _ :: _ => none

/-- The directory with an entry written; an entry of that name keeps its place. -/
def writeEntry (name : Text) (node : FileNode) (entries : List (Text × FileNode)) :
    List (Text × FileNode) :=
  if entries.any fun entry => decide (entry.1 = name) then
    entries.map fun entry => if entry.1 = name then (name, node) else entry
  else entries ++ [(name, node)]

/-- The tree with a node written at a sequence of names; missing directories are made. -/
def write (node : FileNode) : FileNode → List Text → FileNode
  | _, [] => node
  | tree, name :: rest =>
    let old := (tree.entries.lookup name).getD (.directory [])
    .directory (writeEntry name (write node old rest) tree.entries)

/-- The tree with a directory made at a sequence of names, if there is nothing. -/
def makeDirectory (tree : FileNode) (names : List Text) : FileNode :=
  if (tree.node? names).isSome then tree else write (.directory []) tree names

mutual

/-- The number of links in a tree. -/
def linkCount : FileNode → Nat
  | .file _ => 0
  | .link _ => 1
  | .directory entries => linkCountAmong entries

/-- The number of links in several trees. -/
def linkCountAmong : List (Text × FileNode) → Nat
  | [] => 0
  | (_, node) :: rest => linkCount node + linkCountAmong rest

end

mutual

/-- The number of directories in a tree. -/
def directoryCount : FileNode → Nat
  | .file _ => 0
  | .link _ => 0
  | .directory entries => 1 + directoryCountAmong entries

/-- The number of directories in several trees. -/
def directoryCountAmong : List (Text × FileNode) → Nat
  | [] => 0
  | (_, node) :: rest => directoryCount node + directoryCountAmong rest

end

/-- Follows names from a place, given what to do at a link with the names after it. -/
def follow (tree : FileNode)
    (onLink : List Text → Path → List Text → Except AccessError (List Text)) :
    List Text → List Text → Except AccessError (List Text)
  | place, [] => .ok place
  | place, name :: rest =>
    match tree.node? place with
    | some (.directory entries) =>
      if name = Path.upward then follow tree onLink place.dropLast rest
      else match entries.lookup name with
        | none => .error .notFound
        | some (.link target) => onLink place (Path.ofText target) rest
        | some _ => follow tree onLink (place ++ [name]) rest
    | _ => .error .notDirectory

/-- Follows names from a place and at most a number of links. -/
def followUpTo (tree : FileNode) :
    Nat → List Text → List Text → Except AccessError (List Text)
  | 0 => tree.follow fun _ _ _ => .error .tooManyLinks
  | links + 1 => tree.follow fun place target rest =>
    followUpTo tree links (if target.isAbsolute then [] else place) (target.names ++ rest)

/-- The place that an absolute path leads to, which holds no link. -/
def locate (tree : FileNode) (p : Path) : Except AccessError (List Text) :=
  tree.followUpTo maxLinks [] p.names

/-- The node that an absolute path leads to. -/
def access (tree : FileNode) (p : Path) : Except AccessError FileNode := do
  match tree.node? (← tree.locate p) with
  | some node => return node
  | none => throw .notFound

/-- Whether a path leads to anything. -/
def exists? (tree : FileNode) (p : Path) : Bool :=
  match tree.access p with
  | .ok _ => true
  | .error _ => false

/-- Whether a path leads to a directory. -/
def isDirectoryAt (tree : FileNode) (p : Path) : Bool :=
  match tree.access p with
  | .ok node => node.isDirectory
  | .error _ => false

/-- Whether a path leads to a file. -/
def isFileAt (tree : FileNode) (p : Path) : Bool :=
  match tree.access p with
  | .ok (.file _) => true
  | _ => false

/-- The content of the file that a path leads to. -/
def read (tree : FileNode) (p : Path) : Except AccessError (List UInt8) := do
  match ← tree.access p with
  | .file content => return content
  | _ => throw .isDirectory

end FileNode

end SpringAudit

import SpringAudit.FileTree.Basic

/-!
# Resolved paths

Resolving a path replaces the links on it by their targets and takes double dots
away, also where the path leads to nothing.  A double dot takes away the name
before it even if there is no such directory.  A link that leads back to itself
stays as it is with all that follows; such a path is refused if following it
would never end.
-/

namespace SpringAudit

/-- A path cannot be resolved because its links form a loop. -/
structure LinkLoop where
  path : Path

namespace FileNode

/-- Resolves names from a place, given how to resolve a link: its own place, the place it
stands in and its target.  Tells whether no link led back to itself. -/
def resolveNames (tree : FileNode)
    (enter : List Text → List Text → Path → List Text × Bool) :
    List Text → List Text → List Text × Bool
  | place, [] => (place, true)
  | place, name :: rest =>
    if name = Path.upward then resolveNames tree enter place.dropLast rest
    else
      let next := place ++ [name]
      match tree.node? next with
      | some (.link target) =>
        match enter next place (Path.ofText target) with
        | (found, true) => resolveNames tree enter found rest
        | (found, false) => (found ++ rest, false)
      | _ => resolveNames tree enter next rest

/-- Resolves names with links nested at most a number of levels; `entered` holds the links
that are being resolved. -/
def resolveUpTo (tree : FileNode) :
    Nat → List (List Text) → List Text → List Text → List Text × Bool
  | 0, _ => tree.resolveNames fun link _ _ => (link, false)
  | depth + 1, entered => tree.resolveNames fun link place target =>
    if entered.contains link then (link, false)
    else
      resolveUpTo tree depth (link :: entered) (if target.isAbsolute then [] else place)
        target.names

/-- The resolved form of an absolute path.  No more links can be nested than there are. -/
def resolve (tree : FileNode) (p : Path) : Except LinkLoop Path :=
  let (found, _) := tree.resolveUpTo (tree.linkCount + 1) [] [] p.names
  let resolved := Path.absolute (Path.normalizeNames found)
  match tree.locate resolved with
  | .error .tooManyLinks => .error ⟨p⟩
  | _ => .ok resolved

end FileNode

end SpringAudit

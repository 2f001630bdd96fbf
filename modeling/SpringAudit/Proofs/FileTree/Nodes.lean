import Mathlib.Data.List.Perm.Subperm
import SpringAudit.FileTree.Basic

/-!
# The nodes of a file tree

`nodes` lists everything that a tree holds with the names that lead there.  It bounds how
many places there are of one kind: no more links than `linkCount` and no more directories
than `directoryCount` (`length_le_linkCount`, `length_le_directoryCount`).
-/

namespace SpringAudit.FileNode

/-- Whether the node is a link. -/
def isLink : FileNode → Bool
  | .link _ => true
  | _ => false

variable {tree node : FileNode} {place names more : List Text} {name : Text}
  {entries : List (Text × FileNode)}

/-! ## Following names one after another -/

@[simp] theorem node?_nil (tree : FileNode) : tree.node? [] = some tree := by
  cases tree <;> rfl

theorem node?_append (tree : FileNode) (names more : List Text) :
    tree.node? (names ++ more) = (tree.node? names).bind (node? · more) := by
  induction names generalizing tree with
  | nil => simp
  | cons name rest ih =>
      cases tree with
      | file content => rfl
      | link target => rfl
      | directory entries =>
          rw [List.cons_append, node?, node?, Option.bind_assoc]
          exact Option.bind_congr fun below _ => ih below

/-- The entries of a directory are the nodes one name below it. -/
theorem node?_concat (h : tree.node? place = some (.directory entries)) (name : Text) :
    tree.node? (place ++ [name]) = entries.lookup name := by
  rw [node?_append, h, Option.bind_some, node?]
  cases entries.lookup name <;> simp

/-- Only directories have names below them. -/
theorem exists_entries_of_append (h : tree.node? (names ++ name :: more) = some node) :
    ∃ entries, tree.node? names = some (.directory entries) := by
  rw [node?_append] at h
  obtain ⟨found, hFound, hMore⟩ := Option.bind_eq_some_iff.1 h
  cases found with
  | directory entries => exact ⟨entries, hFound⟩
  | file content => cases hMore
  | link target => cases hMore

/-- Above a place there is a directory. -/
theorem exists_entries_dropLast (h : tree.node? place = some node) (hBelow : place ≠ []) :
    ∃ entries, tree.node? place.dropLast = some (.directory entries) := by
  rw [← List.dropLast_append_getLast hBelow] at h
  exact exists_entries_of_append h

/-! ## All nodes -/

mutual

/-- The nodes of a tree with the names that lead to them. -/
def nodes : FileNode → List (List Text × FileNode)
  | .file content => [([], .file content)]
  | .link target => [([], .link target)]
  | .directory entries => ([], .directory entries) :: nodesAmong entries

/-- The nodes of several entries. -/
def nodesAmong : List (Text × FileNode) → List (List Text × FileNode)
  | [] => []
  | (name, node) :: rest =>
    (nodes node).map (fun found => (name :: found.1, found.2)) ++ nodesAmong rest

end

theorem self_mem_nodes (tree : FileNode) : ([], tree) ∈ tree.nodes := by
  cases tree <;> simp [nodes]

theorem mem_nodesAmong (hEntry : (name, node) ∈ entries) {found : List Text × FileNode}
    (hFound : found ∈ node.nodes) : (name :: found.1, found.2) ∈ nodesAmong entries := by
  induction entries with
  | nil => cases hEntry
  | cons entry rest ih =>
      rw [nodesAmong, List.mem_append, List.mem_map]
      rcases List.mem_cons.1 hEntry with rfl | hRest
      · exact .inl ⟨found, hFound, rfl⟩
      · exact .inr (ih hRest)

/-- What is found in a list of pairs stands there. -/
theorem mem_of_lookup (h : entries.lookup name = some node) : (name, node) ∈ entries := by
  obtain ⟨front, back, rfl, -⟩ := List.lookup_eq_some_iff.1 h
  simp

theorem mem_nodes (h : tree.node? names = some node) : (names, node) ∈ tree.nodes := by
  induction names generalizing tree with
  | nil =>
      obtain rfl := Option.some.inj ((node?_nil tree).symm.trans h)
      exact self_mem_nodes tree
  | cons name rest ih =>
      cases tree with
      | file content => cases h
      | link target => cases h
      | directory entries =>
          rw [node?] at h
          obtain ⟨below, hLookup, hRest⟩ := Option.bind_eq_some_iff.1 h
          rw [nodes]
          exact List.mem_cons_of_mem _ (mem_nodesAmong (mem_of_lookup hLookup) (ih hRest))

/-! ## How many there are of a kind -/

mutual

/-- The counts of links and directories count nodes. -/
theorem countP_nodes : (tree : FileNode) →
    tree.nodes.countP (·.2.isLink) = tree.linkCount ∧
      tree.nodes.countP (·.2.isDirectory) = tree.directoryCount
  | .file content => by simp [nodes, linkCount, directoryCount, isLink, isDirectory]
  | .link target => by simp [nodes, linkCount, directoryCount, isLink, isDirectory]
  | .directory entries => by
      obtain ⟨hLinks, hDirectories⟩ := countP_nodesAmong entries
      constructor
      · rw [nodes, linkCount, List.countP_cons_of_neg (by simp [isLink]), hLinks]
      · rw [nodes, directoryCount, List.countP_cons_of_pos (by simp [isDirectory]),
          hDirectories, Nat.add_comm]

theorem countP_nodesAmong : (entries : List (Text × FileNode)) →
    (nodesAmong entries).countP (·.2.isLink) = linkCountAmong entries ∧
      (nodesAmong entries).countP (·.2.isDirectory) = directoryCountAmong entries
  | [] => ⟨rfl, rfl⟩
  | (name, node) :: rest => by
      obtain ⟨hLinks, hDirectories⟩ := countP_nodes node
      obtain ⟨hRestLinks, hRestDirectories⟩ := countP_nodesAmong rest
      constructor
      · rw [nodesAmong, linkCountAmong, List.countP_append, List.countP_map, ← hLinks,
          ← hRestLinks]
        rfl
      · rw [nodesAmong, directoryCountAmong, List.countP_append, List.countP_map,
          ← hDirectories, ← hRestDirectories]
        rfl

end

/-- Different places of one kind are at most as many as there are nodes of this kind. -/
theorem length_le_countP {kind : FileNode → Bool} {places : List (List Text)}
    (hDistinct : places.Nodup)
    (hKind : ∀ place ∈ places, ∃ node, tree.node? place = some node ∧ kind node = true) :
    places.length ≤ tree.nodes.countP (kind ·.2) := by
  have hSubset : places ⊆ (tree.nodes.filter (kind ·.2)).map Prod.fst := by
    intro place hMem
    obtain ⟨node, hNode, hThis⟩ := hKind place hMem
    exact List.mem_map.2 ⟨(place, node), List.mem_filter.2 ⟨mem_nodes hNode, hThis⟩, rfl⟩
  calc
    places.length ≤ ((tree.nodes.filter (kind ·.2)).map Prod.fst).length :=
      (List.subperm_of_subset hDistinct hSubset).length_le
    _ = tree.nodes.countP (kind ·.2) := by rw [List.length_map, List.countP_eq_length_filter]

theorem length_le_linkCount {places : List (List Text)} (hDistinct : places.Nodup)
    (hLinks : ∀ place ∈ places, ∃ target, tree.node? place = some (.link target)) :
    places.length ≤ tree.linkCount := by
  rw [← (countP_nodes tree).1]
  refine length_le_countP hDistinct fun place hMem => ?_
  obtain ⟨target, hNode⟩ := hLinks place hMem
  exact ⟨_, hNode, rfl⟩

theorem length_le_directoryCount {places : List (List Text)} (hDistinct : places.Nodup)
    (hDirectories : ∀ place ∈ places, ∃ entries, tree.node? place = some (.directory entries)) :
    places.length ≤ tree.directoryCount := by
  rw [← (countP_nodes tree).2]
  refine length_le_countP hDistinct fun place hMem => ?_
  obtain ⟨entries, hNode⟩ := hDirectories place hMem
  exact ⟨_, hNode, rfl⟩

end SpringAudit.FileNode

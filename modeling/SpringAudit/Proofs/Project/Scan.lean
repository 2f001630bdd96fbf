import SpringAudit.Project.Scan
import SpringAudit.Proofs.Endpoint.Order
import SpringAudit.Proofs.FileTree.Listing

/-!
# Which source files are found

The search for source files lists them while it goes through the entries of directories.
`Reaches` says which files it is to find: from a directory downward, through real
directories whose names are not ignored.  Each root gives a group of resolved paths, those
that no root before it gives (`Grouped`).

`sources_account` shows that the search finds exactly these groups, one behind the other and
sorted each, whatever order the directories list their entries in.  It does so unless some
file that is reached has no resolved path, because it is a link that leads back to itself;
then it finds nothing at all.

There is no limit on the number of files here.
-/

namespace SpringAudit

/-! ## The order of paths -/

namespace Path

/-- The path behind which further names are appended. -/
def descend (p : Path) (names : List Text) : Path :=
  { p with names := p.names ++ names }

theorem bleNames_cons_iff {a b : Text} {s t : List Text} :
    bleNames (a :: s) (b :: t) = true ↔ a = b ∧ bleNames s t = true ∨ a ≠ b ∧ a.ble b = true := by
  rw [bleNames]
  split <;> simp_all

theorem bleNames_total (s t : List Text) : bleNames s t = true ∨ bleNames t s = true := by
  induction s generalizing t with
  | nil => exact .inl rfl
  | cons a s ih =>
      cases t with
      | nil => exact .inr rfl
      | cons b t =>
          rw [bleNames_cons_iff, bleNames_cons_iff]
          by_cases hSame : a = b
          · exact (ih t).imp (fun h => .inl ⟨hSame, h⟩) fun h => .inl ⟨hSame.symm, h⟩
          · exact (Text.ble_total a b).imp (fun h => .inr ⟨hSame, h⟩)
              fun h => .inr ⟨Ne.symm hSame, h⟩

theorem bleNames_antisymm {s t : List Text} (hFirst : bleNames s t = true)
    (hSecond : bleNames t s = true) : s = t := by
  induction s generalizing t with
  | nil =>
      cases t with
      | nil => rfl
      | cons b t => cases hSecond
  | cons a s ih =>
      cases t with
      | nil => cases hFirst
      | cons b t =>
          rw [bleNames_cons_iff] at hFirst hSecond
          rcases hFirst with ⟨rfl, hRest⟩ | ⟨hNe, hLess⟩
          · rcases hSecond with ⟨-, hRest'⟩ | ⟨hNe, -⟩
            · rw [ih hRest hRest']
            · exact absurd rfl hNe
          · rcases hSecond with ⟨rfl, -⟩ | ⟨-, hGreater⟩
            · exact absurd rfl hNe
            · exact absurd (Text.ble_antisymm hLess hGreater) hNe

theorem bleNames_trans {s t u : List Text} (hFirst : bleNames s t = true)
    (hSecond : bleNames t u = true) : bleNames s u = true := by
  induction s generalizing t u with
  | nil => rfl
  | cons a s ih =>
      cases t with
      | nil => cases hFirst
      | cons b t =>
          cases u with
          | nil => cases hSecond
          | cons c u =>
              rw [bleNames_cons_iff] at hFirst hSecond ⊢
              rcases hFirst with ⟨rfl, hRest⟩ | ⟨hNe, hLess⟩
              · exact hSecond.imp (fun h => ⟨h.1, ih hRest h.2⟩) id
              · rcases hSecond with ⟨rfl, -⟩ | ⟨hNe', hLess'⟩
                · exact .inr ⟨hNe, hLess⟩
                · refine .inr ⟨?_, Text.ble_trans hLess hLess'⟩
                  rintro rfl
                  exact hNe (Text.ble_antisymm hLess hLess')

/-- A path comes before another. -/
def Before (p q : Path) : Prop :=
  p.ble q = true ∧ p ≠ q

theorem pairwise_mergeSort (l : List Path) :
    (l.mergeSort ble).Pairwise fun p q => p.ble q = true :=
  @List.pairwise_mergeSort Path ble (fun _ _ _ h h' => bleNames_trans h h')
    (fun p q => by simpa [ble] using bleNames_total p.names q.names) l

/-- Absolute paths have one order only. -/
theorem eq_of_before {l l' : List Path} (h : l.Pairwise Before) (h' : l'.Pairwise Before)
    (hMem : ∀ p, p ∈ l ↔ p ∈ l') (hAbsolute : ∀ p ∈ l, p.isAbsolute = true) : l = l' := by
  have hPerm : l.Perm l' :=
    (List.perm_ext_iff_of_nodup (h.imp And.right) (h'.imp And.right)).2 hMem
  refine hPerm.eq_of_pairwise (fun p q hp hq hFirst hSecond => ?_) h h'
  obtain ⟨pAbsolute, pNames⟩ := p
  obtain ⟨qAbsolute, qNames⟩ := q
  obtain rfl : pNames = qNames := bleNames_antisymm hFirst.1 hSecond.1
  obtain rfl : pAbsolute = true := hAbsolute _ hp
  obtain rfl : qAbsolute = true := hAbsolute _ ((hMem _).2 hq)
  rfl

end Path

namespace FileNode

variable {tree other : FileNode} {place names : List Text} {root p q : Path}

/-! ## Which files are reached -/

/-- Names lead to a file, or to a link that does not lead to a directory. -/
def HoldsFile (tree : FileNode) (names : List Text) : Prop :=
  (∃ content, tree.node? names = some (.file content)) ∨
    (∃ target, tree.node? names = some (.link target)) ∧
      tree.isDirectoryAt (.absolute names) = false

/-- From a place, names lead to a source file through directories with names that are not
ignored. -/
inductive Reaches (tree : FileNode) : List Text → List Text → Prop where
  | file {place : List Text} {name : Text} (hName : isSourceName name = true)
      (hFile : tree.HoldsFile (place ++ [name])) : Reaches tree place [name]
  | deeper {place names : List Text} {name : Text} {entries : List (Text × FileNode)}
      (hDirectory : tree.node? (place ++ [name]) = some (.directory entries))
      (hName : name ∉ ignoredNames) (hRest : Reaches tree (place ++ [name]) names) :
      Reaches tree place (name :: names)

/-- From a root that leads to a directory, names lead to a source file. -/
def ReachesFrom (tree : FileNode) (root : Path) (names : List Text) : Prop :=
  ∃ place, tree.isDirectoryAt root = true ∧ tree.locate root = .ok place ∧
    tree.Reaches place names

/-- A path is the resolved path of a source file that is reached from a root. -/
def IsSource (tree : FileNode) (root p : Path) : Prop :=
  ∃ names, tree.ReachesFrom root names ∧ tree.resolve (root.descend names) = .ok p

namespace Reaches

theorem exists_node {name : Text} (h : tree.Reaches place (name :: names)) :
    ∃ node, tree.node? (place ++ [name]) = some node := by
  cases h with
  | file _ hFile =>
      rcases hFile with ⟨content, hNode⟩ | ⟨⟨target, hNode⟩, -⟩
      · exact ⟨_, hNode⟩
      · exact ⟨_, hNode⟩
  | deeper hDirectory => exact ⟨_, hDirectory⟩

theorem exists_cons (h : tree.Reaches place names) : ∃ name rest, names = name :: rest := by
  cases h <;> exact ⟨_, _, rfl⟩

end Reaches

/-! ## The listing of a directory -/

section Listing

variable {path : List Text} {entries : List (Text × FileNode)} {name : Text} {node : FileNode}

/-- Whether names lead to a directory. -/
def leadsToDirectory (tree : FileNode) (names : List Text) : Bool :=
  tree.isDirectoryAt (.absolute names)

/-- All entries of a directory stand one name below it. -/
theorem node?_of_mem_entries (hNames : (directory entries).hasDistinctNames = true)
    (hHere : tree.node? place = some (.directory entries)) {entry : Text × FileNode}
    (hMem : entry ∈ entries) : tree.node? (place ++ [entry.1]) = some entry.2 := by
  rw [node?_concat hHere, lookup_eq_some_iff_mem (hasDistinctNames_directory_iff.1 hNames).1]
  exact hMem

mutual

/-- What is listed for an entry is what is reached through it. -/
theorem mem_sourcesAt : (node : FileNode) → {place : List Text} → {name : Text} →
    tree.node? (place ++ [name]) = some node → node.hasDistinctNames = true →
    (path ∈ sourcesAt tree.leadsToDirectory place name node ↔
      ∃ rest, path = place ++ name :: rest ∧ tree.Reaches place (name :: rest))
  | .file content, place, name, hNode, _ => by
      rw [sourcesAt]
      constructor
      · intro hMem
        split at hMem
        · next hName =>
          exact ⟨[], List.mem_singleton.1 hMem, .file hName (.inl ⟨content, hNode⟩)⟩
        · cases hMem
      · rintro ⟨rest, rfl, hReaches⟩
        cases hReaches with
        | file hName => rw [if_pos hName, List.mem_singleton]
        | deeper hDirectory => cases hNode.symm.trans hDirectory
  | .link target, place, name, hNode, _ => by
      rw [sourcesAt]
      constructor
      · intro hMem
        split at hMem
        · next hListed =>
          rw [Bool.and_eq_true, Bool.not_eq_true'] at hListed
          exact ⟨[], List.mem_singleton.1 hMem,
            .file hListed.1 (.inr ⟨⟨target, hNode⟩, hListed.2⟩)⟩
        · cases hMem
      · rintro ⟨rest, rfl, hReaches⟩
        cases hReaches with
        | file hName hFile =>
            rcases hFile with ⟨content, hFile⟩ | ⟨-, hNoDirectory⟩
            · cases hNode.symm.trans hFile
            · rw [if_pos (by simp [hName, leadsToDirectory, hNoDirectory]), List.mem_singleton]
        | deeper hDirectory => cases hNode.symm.trans hDirectory
  | .directory entries, place, name, hNode, hNames => by
      have hBelow := mem_sourcesAmong entries (fun _ => node?_of_mem_entries hNames hNode)
        (haveDistinctNames_iff.2 (hasDistinctNames_directory_iff.1 hNames).2)
      rw [sourcesAt]
      constructor
      · intro hMem
        split at hMem
        · cases hMem
        · next hName =>
          obtain ⟨entry, -, rest, rfl, hReaches⟩ := hBelow.1 hMem
          exact ⟨_, by simp, .deeper hNode (by simpa using hName) hReaches⟩
      · rintro ⟨rest, rfl, hReaches⟩
        cases hReaches with
        | file _ hFile =>
            rcases hFile with ⟨content, hFile⟩ | ⟨⟨target, hFile⟩, -⟩
            · cases hNode.symm.trans hFile
            · cases hNode.symm.trans hFile
        | deeper _ hName hRest =>
            -- What is reached inside starts with an entry of this directory.
            obtain ⟨next, more, rfl⟩ := hRest.exists_cons
            obtain ⟨node, hNext⟩ := hRest.exists_node
            rw [node?_concat hNode] at hNext
            rw [if_neg (by simpa using hName)]
            exact hBelow.2 ⟨(next, node), mem_of_lookup hNext, more, by simp, hRest⟩

theorem mem_sourcesAmong : (entries : List (Text × FileNode)) → {place : List Text} →
    (∀ entry ∈ entries, tree.node? (place ++ [entry.1]) = some entry.2) →
    haveDistinctNames entries = true →
    (path ∈ sourcesAmong tree.leadsToDirectory place entries ↔
      ∃ entry ∈ entries, ∃ rest, path = place ++ entry.1 :: rest ∧
        tree.Reaches place (entry.1 :: rest))
  | [], place, _, _ => by simp [sourcesAmong]
  | (name, node) :: rest, place, hNodes, hNames => by
      rw [List.forall_mem_cons] at hNodes
      rw [haveDistinctNames, Bool.and_eq_true] at hNames
      rw [sourcesAmong, List.mem_append, mem_sourcesAt node hNodes.1 hNames.1,
        mem_sourcesAmong rest hNodes.2 hNames.2]
      simp only [List.mem_cons, exists_eq_or_imp]

end

/-- Nothing is listed below a root that does not lead to a directory. -/
theorem sourcesBelow_of_no_directory (h : tree.isDirectoryAt root = false) :
    tree.sourcesBelow root = [] := by
  unfold sourcesBelow
  cases hLocate : tree.locate root with
  | error e => rfl
  | ok place =>
      cases hNode : tree.node? place with
      | none => simp only [hNode]
      | some node =>
          simp only [hNode]
          cases node with
          | file content => rfl
          | link target => rfl
          | directory entries =>
              cases h.symm.trans (isDirectoryAt_iff.2 ⟨place, entries, hLocate, hNode⟩)

/-- What is listed below a root is what is reached from it. -/
theorem mem_sourcesBelow (hNames : tree.hasDistinctNames = true) :
    p ∈ tree.sourcesBelow root ↔
      ∃ place names, tree.isDirectoryAt root = true ∧ tree.locate root = .ok place ∧
        tree.Reaches place names ∧ p = .absolute (place ++ names) := by
  cases hRoot : tree.isDirectoryAt root with
  | false => simp [sourcesBelow_of_no_directory hRoot]
  | true =>
      obtain ⟨place, entries, hLocate, hNode⟩ := isDirectoryAt_iff.1 hRoot
      have hBelow := hasDistinctNames_of_node? hNames hNode
      have hListed (path : List Text) :
          path ∈ sourcesAmong tree.leadsToDirectory place entries ↔
            ∃ entry ∈ entries, ∃ rest, path = place ++ entry.1 :: rest ∧
              tree.Reaches place (entry.1 :: rest) :=
        mem_sourcesAmong entries (fun _ => node?_of_mem_entries hBelow hNode)
          (haveDistinctNames_iff.2 (hasDistinctNames_directory_iff.1 hBelow).2)
      have hSources : tree.sourcesBelow root =
          (sourcesAmong tree.leadsToDirectory place entries).map Path.absolute := by
        simp only [sourcesBelow, hLocate, hNode, FileNode.entries]
        rfl
      rw [hSources, List.mem_map]
      constructor
      · rintro ⟨path, hMem, rfl⟩
        obtain ⟨entry, -, rest, rfl, hReaches⟩ := (hListed path).1 hMem
        exact ⟨place, _, rfl, hLocate, hReaches, rfl⟩
      · rintro ⟨place', names, -, hLocate', hReaches, rfl⟩
        obtain rfl := Except.ok.inj (hLocate.symm.trans hLocate')
        obtain ⟨name, rest, rfl⟩ := hReaches.exists_cons
        obtain ⟨node, hEntry⟩ := hReaches.exists_node
        rw [node?_concat hNode] at hEntry
        exact ⟨_, (hListed _).2 ⟨(name, node), mem_of_lookup hEntry, rest, rfl, hReaches⟩, rfl⟩

end Listing

/-! ## The sources of one root -/

/-- The resolved path of a file below a root does not depend on how the root is written. -/
theorem resolve_descend (hRoot : tree.isDirectoryAt root = true)
    (hLocate : tree.locate root = .ok place) :
    tree.resolve (root.descend names) = .ok p ↔
      tree.resolve (.absolute (place ++ names)) = .ok p := by
  obtain ⟨found, hFound⟩ := exists_locatesDirectory hRoot
  obtain rfl := Except.ok.inj (hLocate.symm.trans hFound.locate)
  exact hFound.resolve_append names

theorem isSource_iff (hNames : tree.hasDistinctNames = true) :
    tree.IsSource root p ↔ ∃ q ∈ tree.sourcesBelow root, tree.resolve q = .ok p := by
  simp only [mem_sourcesBelow hNames]
  constructor
  · rintro ⟨names, ⟨place, hRoot, hLocate, hReaches⟩, hResolve⟩
    exact ⟨_, ⟨place, names, hRoot, hLocate, hReaches, rfl⟩,
      (resolve_descend hRoot hLocate).1 hResolve⟩
  · rintro ⟨-, ⟨place, names, hRoot, hLocate, hReaches, rfl⟩, hResolve⟩
    exact ⟨names, ⟨place, hRoot, hLocate, hReaches⟩, (resolve_descend hRoot hLocate).2 hResolve⟩

/-- Every file that is reached from a root has a resolved path. -/
def Resolvable (tree : FileNode) (root : Path) : Prop :=
  ∀ names, tree.ReachesFrom root names → ∃ p, tree.resolve (root.descend names) = .ok p

theorem resolvable_iff (hNames : tree.hasDistinctNames = true) :
    tree.Resolvable root ↔ ∀ q ∈ tree.sourcesBelow root, ∃ p, tree.resolve q = .ok p := by
  simp only [mem_sourcesBelow hNames]
  constructor
  · rintro h - ⟨place, names, hRoot, hLocate, hReaches, rfl⟩
    obtain ⟨p, hResolve⟩ := h names ⟨place, hRoot, hLocate, hReaches⟩
    exact ⟨p, (resolve_descend hRoot hLocate).1 hResolve⟩
  · rintro h names ⟨place, hRoot, hLocate, hReaches⟩
    obtain ⟨p, hResolve⟩ := h _ ⟨place, names, hRoot, hLocate, hReaches, rfl⟩
    exact ⟨p, (resolve_descend hRoot hLocate).2 hResolve⟩

/-- The sources of a root, if all have a resolved path, are sorted. -/
theorem sortedSources_eq_ok {l : List Path} (hNames : tree.hasDistinctNames = true)
    (h : tree.sortedSources root = .ok l) :
    (∀ p, p ∈ l ↔ tree.IsSource root p) ∧ l.Pairwise fun p q => p.ble q = true := by
  obtain ⟨found, hFound, hSorted⟩ := bind_eq_ok_iff.1 h
  obtain rfl := Except.ok.inj hSorted
  refine ⟨fun p => ?_, Path.pairwise_mergeSort found⟩
  rw [List.mem_mergeSort, isSource_iff hNames, mem_of_mapM_eq_ok hFound]

theorem exists_sortedSources_iff (hNames : tree.hasDistinctNames = true) :
    (∃ l, tree.sortedSources root = .ok l) ↔ tree.Resolvable root := by
  rw [← not_isError_iff, sortedSources, isError_bind_pure, isError_mapM, resolvable_iff hNames]
  simp only [not_exists, not_and, not_isError_iff]

/-- What is resolved is absolute. -/
theorem IsSource.isAbsolute (h : tree.IsSource root p) : p.isAbsolute = true := by
  obtain ⟨names, -, hResolve⟩ := h
  rw [(resolve_eq_ok_iff.1 hResolve).1]
  rfl

/-! ## The sources of several roots -/

theorem mem_newPaths {seen l : List Path} : p ∈ newPaths seen l ↔ p ∈ l ∧ p ∉ seen := by
  induction l generalizing seen with
  | nil => simp [newPaths]
  | cons q rest ih =>
      rw [newPaths]
      by_cases hSeen : q ∈ seen
      · rw [if_pos (by simpa using hSeen), ih, List.mem_cons]
        constructor
        · exact fun h => ⟨.inr h.1, h.2⟩
        · rintro ⟨rfl | hRest, hNew⟩
          · exact absurd hSeen hNew
          · exact ⟨hRest, hNew⟩
      · rw [if_neg (by simpa using hSeen), List.mem_cons, ih, List.mem_cons, List.mem_cons]
        constructor
        · rintro (rfl | ⟨hRest, hNew⟩)
          · exact ⟨.inl rfl, hSeen⟩
          · exact ⟨.inr hRest, fun h => hNew (.inr h)⟩
        · rintro ⟨rfl | hRest, hNew⟩
          · exact .inl rfl
          · by_cases hSame : p = q
            · exact .inl hSame
            · exact .inr ⟨hRest, not_or.2 ⟨hSame, hNew⟩⟩

/-- New paths of a sorted list are sorted, each once. -/
theorem pairwise_newPaths {seen l : List Path} (h : l.Pairwise fun p q => p.ble q = true) :
    (newPaths seen l).Pairwise Path.Before := by
  induction l generalizing seen with
  | nil => exact .nil
  | cons q rest ih =>
      rw [List.pairwise_cons] at h
      rw [newPaths]
      split
      · exact ih h.2
      · refine List.pairwise_cons.2 ⟨fun p hMem => ?_, ih h.2⟩
        obtain ⟨hRest, hNew⟩ := mem_newPaths.1 hMem
        refine ⟨h.1 p hRest, ?_⟩
        rintro rfl
        exact hNew List.mem_cons_self

/-- Groups of paths, one for each root: the sources that are reached from it and from no root
before it, sorted. -/
inductive Grouped (tree : FileNode) : List Path → List Path → List (List Path) → Prop where
  | nil (earlier : List Path) : Grouped tree earlier [] []
  | cons {earlier roots : List Path} {root : Path} {group : List Path} {groups : List (List Path)}
      (hMem : ∀ p, p ∈ group ↔ tree.IsSource root p ∧ ∀ r ∈ earlier, ¬ tree.IsSource r p)
      (hSorted : group.Pairwise Path.Before) (hRest : Grouped tree (root :: earlier) roots groups) :
      Grouped tree earlier (root :: roots) (group :: groups)

namespace Grouped

variable {earlier roots : List Path} {groups groups' : List (List Path)}

/-- Groups hold what is reached from some root and was not reached before. -/
theorem mem_flatten_iff (h : tree.Grouped earlier roots groups) :
    p ∈ groups.flatten ↔
      (∃ root ∈ roots, tree.IsSource root p) ∧ ∀ r ∈ earlier, ¬ tree.IsSource r p := by
  induction h with
  | nil => simp
  | @cons earlier roots root group groups hMem _ _ ih =>
      rw [List.flatten_cons, List.mem_append, hMem, ih, List.forall_mem_cons]
      by_cases hRoot : tree.IsSource root p
      · simp [hRoot]
      · simp [hRoot]

/-- No path stands in two groups, or twice in one. -/
theorem nodup (h : tree.Grouped earlier roots groups) : groups.flatten.Nodup := by
  induction h with
  | nil => exact List.nodup_nil
  | @cons earlier roots root group groups hMem hSorted hRest ih =>
      rw [List.flatten_cons, List.nodup_append]
      refine ⟨hSorted.imp fun h => h.2, ih, ?_⟩
      rintro p hGroup q hLater rfl
      exact (hRest.mem_flatten_iff.1 hLater).2 root List.mem_cons_self ((hMem p).1 hGroup).1

/-- The groups are determined by what is reached. -/
theorem unique (h : tree.Grouped earlier roots groups)
    (hOther : other.Grouped earlier roots groups')
    (hSame : ∀ root p, tree.IsSource root p ↔ other.IsSource root p) : groups = groups' := by
  induction h generalizing groups' with
  | nil =>
      cases hOther
      rfl
  | @cons earlier roots root group groups hMem hSorted _ ih =>
      cases hOther with
      | cons hMem' hSorted' hRest' =>
          have hGroup := Path.eq_of_before hSorted hSorted'
            (fun p => by rw [hMem, hMem']; simp only [hSame])
            fun p hHere => ((hMem p).1 hHere).1.isAbsolute
          rw [hGroup, ih hRest']

end Grouped

variable {found earlier roots files : List Path}

/-- Each root adds its group to what the roots before it gave. -/
theorem exists_grouped (hNames : tree.hasDistinctNames = true)
    (hFound : ∀ p, p ∈ found ↔ ∃ r ∈ earlier, tree.IsSource r p)
    (h : tree.sourcesFrom none found roots = .ok files) :
    ∃ groups, tree.Grouped earlier roots groups ∧ files = found ++ groups.flatten := by
  induction roots generalizing found earlier with
  | nil =>
      obtain rfl := Except.ok.inj h
      exact ⟨[], .nil earlier, by simp⟩
  | cons root rest ih =>
      obtain ⟨l, hSorted, hRest⟩ := bind_eq_ok_iff.1 h
      obtain ⟨hMem, hOrder⟩ := sortedSources_eq_ok hNames hSorted
      -- As all that was found before was reached from earlier roots, new means reached first here.
      have hGroup (p : Path) : p ∈ newPaths found l ↔
          tree.IsSource root p ∧ ∀ r ∈ earlier, ¬ tree.IsSource r p := by
        rw [mem_newPaths, hMem, hFound]
        simp only [not_exists, not_and]
      have hFound' (p : Path) : p ∈ found ++ newPaths found l ↔
          ∃ r ∈ root :: earlier, tree.IsSource r p := by
        rw [List.mem_append, mem_newPaths, hMem, hFound, List.exists_mem_cons_iff]
        by_cases hEarlier : ∃ r ∈ earlier, tree.IsSource r p
        · simp [hEarlier]
        · simp [hEarlier]
      obtain ⟨groups, hGroups, rfl⟩ := ih hFound' hRest
      exact ⟨_, .cons hGroup (pairwise_newPaths hOrder) hGroups, by simp⟩

theorem exists_sourcesFrom_iff (hNames : tree.hasDistinctNames = true) :
    (∃ files, tree.sourcesFrom none found roots = .ok files) ↔
      ∀ root ∈ roots, tree.Resolvable root := by
  induction roots generalizing found with
  | nil => simp [sourcesFrom]
  | cons root rest ih =>
      rw [List.forall_mem_cons, ← exists_sortedSources_iff hNames]
      constructor
      · rintro ⟨files, h⟩
        obtain ⟨l, hSorted, hRest⟩ := bind_eq_ok_iff.1 h
        exact ⟨⟨l, hSorted⟩, ih.1 ⟨files, hRest⟩⟩
      · rintro ⟨⟨l, hSorted⟩, hRest⟩
        obtain ⟨files, h⟩ := ih.2 hRest
        exact ⟨files, bind_eq_ok_iff.2 ⟨l, hSorted, h⟩⟩

/-! ## The order of the entries -/

namespace Relisted

theorem holdsFile_iff (h : Relisted tree other) (hNames : tree.hasDistinctNames = true) :
    tree.HoldsFile names ↔ other.HoldsFile names := by
  have hAlike := h.alike hNames
  simp only [HoldsFile, hAlike.file_iff, hAlike.link_iff, hAlike.isDirectoryAt_eq]

theorem reaches (h : Relisted tree other) (hNames : tree.hasDistinctNames = true)
    (hReaches : tree.Reaches place names) : other.Reaches place names := by
  induction hReaches with
  | file hName hFile => exact .file hName ((h.holdsFile_iff hNames).1 hFile)
  | deeper hDirectory hName _ ih =>
      obtain ⟨entries, hDirectory'⟩ := (h.alike hNames).exists_directory_iff.1 ⟨_, hDirectory⟩
      exact .deeper hDirectory' hName ih

theorem reachesFrom_iff (h : Relisted tree other) (hNames : tree.hasDistinctNames = true) :
    tree.ReachesFrom root names ↔ other.ReachesFrom root names := by
  have hAlike := h.alike hNames
  have hReaches (place : List Text) : tree.Reaches place names ↔ other.Reaches place names :=
    ⟨h.reaches hNames, h.symm.reaches (h.hasDistinctNames_eq ▸ hNames)⟩
  simp only [ReachesFrom, hAlike.isDirectoryAt_eq, hAlike.locate_eq, hReaches]

theorem isSource_iff (h : Relisted tree other) (hNames : tree.hasDistinctNames = true) :
    tree.IsSource root p ↔ other.IsSource root p := by
  simp only [IsSource, h.reachesFrom_iff hNames, h.resolve_eq hNames]

theorem resolvable_iff (h : Relisted tree other) (hNames : tree.hasDistinctNames = true) :
    tree.Resolvable root ↔ other.Resolvable root := by
  simp only [Resolvable, h.reachesFrom_iff hNames, h.resolve_eq hNames]

end Relisted

/-! ## The account -/

theorem exists_sources_iff {roots : List Path} (hNames : tree.hasDistinctNames = true) :
    (∃ files, tree.sources roots none = .ok files) ↔ ∀ root ∈ roots, tree.Resolvable root :=
  exists_sourcesFrom_iff hNames

theorem exists_groups {roots files : List Path} (hNames : tree.hasDistinctNames = true)
    (h : tree.sources roots none = .ok files) :
    ∃ groups, tree.Grouped [] roots groups ∧ files = groups.flatten := by
  have hNone (p : Path) : p ∈ ([] : List Path) ↔ ∃ r ∈ ([] : List Path), tree.IsSource r p := by
    simp
  obtain ⟨groups, hGrouped, hFiles⟩ := exists_grouped hNames hNone h
  exact ⟨groups, hGrouped, hFiles⟩

/-- What is found does not depend on the order of the entries. -/
theorem Relisted.sources_eq {roots : List Path} (h : Relisted tree other)
    (hNames : tree.hasDistinctNames = true) :
    (other.sources roots none).toOption = (tree.sources roots none).toOption := by
  have hNames' : other.hasDistinctNames = true := h.hasDistinctNames_eq ▸ hNames
  -- Which file stops the search may depend on the order, so errors are not compared.
  have hBoth : (∃ files, tree.sources roots none = .ok files) ↔
      ∃ files, other.sources roots none = .ok files := by
    rw [exists_sources_iff hNames, exists_sources_iff hNames']
    simp only [h.resolvable_iff hNames]
  cases hTree : tree.sources roots none with
  | error e =>
      cases hOther : other.sources roots none with
      | error e' => rfl
      | ok files' =>
          obtain ⟨files, hFiles⟩ := hBoth.2 ⟨files', hOther⟩
          cases hTree.symm.trans hFiles
  | ok files =>
      obtain ⟨files', hOther⟩ := hBoth.1 ⟨files, hTree⟩
      obtain ⟨groups, hGrouped, rfl⟩ := exists_groups hNames hTree
      obtain ⟨groups', hGrouped', rfl⟩ := exists_groups hNames' hOther
      rw [hOther, hGrouped.unique hGrouped' fun _ _ => h.isSource_iff hNames]

/-- The search for source files below several roots.  It succeeds exactly if all files that are
reached have resolved paths.  It finds these paths then and no others, each once and in groups:
one for each root, with what no root before reaches, and sorted.  The order of the entries in
directories does not matter. -/
theorem sources_account (tree : FileNode) (roots : List Path)
    (hNames : tree.hasDistinctNames = true) :
    ((∃ files, tree.sources roots none = .ok files) ↔
        ∀ root ∈ roots, ∀ names, tree.ReachesFrom root names →
          ∃ p, tree.resolve (root.descend names) = .ok p) ∧
      (∀ files, tree.sources roots none = .ok files →
        files.Nodup ∧ (∀ p, p ∈ files ↔ ∃ root ∈ roots, tree.IsSource root p) ∧
          ∃ groups, tree.Grouped [] roots groups ∧ files = groups.flatten) ∧
      ∀ other, Relisted tree other →
        (other.sources roots none).toOption = (tree.sources roots none).toOption := by
  refine ⟨exists_sources_iff hNames, fun files h => ?_, fun other hOther =>
    hOther.sources_eq hNames⟩
  obtain ⟨groups, hGrouped, rfl⟩ := exists_groups hNames h
  refine ⟨hGrouped.nodup, fun p => ?_, groups, hGrouped, rfl⟩
  rw [hGrouped.mem_flatten_iff]
  simp

/-- A source directory with a file, and with another one in a directory with an ignored name. -/
def shopSources : List (Text × FileNode) :=
  [("build", .directory [("B.java", .file [])]), ("A.java", .file [])]

/-- A tree with given entries in one directory. -/
def sourceTree (entries : List (Text × FileNode)) : FileNode :=
  .directory [("src", .directory entries)]

/-- What is ignored below one root is found below another; the order of the entries does not
matter. -/
theorem sources_sourceTree :
    (∃ files, (sourceTree shopSources).sources [.absolute ["src"], .absolute ["src", "build"]]
        none = .ok files ∧ files.Nodup ∧ Path.absolute ["src", "build", "B.java"] ∈ files) ∧
      ((sourceTree shopSources.reverse).sources [.absolute ["src"], .absolute ["src", "build"]]
        none).toOption =
          some [.absolute ["src", "A.java"], .absolute ["src", "build", "B.java"]] := by
  obtain ⟨-, hFound, hOrder⟩ := sources_account (sourceTree shopSources)
    [.absolute ["src"], .absolute ["src", "build"]] (by decide +kernel)
  have hFiles : ((sourceTree shopSources).sources [.absolute ["src"], .absolute ["src", "build"]]
      none).toOption =
        some [.absolute ["src", "A.java"], .absolute ["src", "build", "B.java"]] := by
    decide +kernel
  constructor
  · cases hResult : (sourceTree shopSources).sources
        [.absolute ["src"], .absolute ["src", "build"]] none with
    | error e =>
        rw [hResult] at hFiles
        cases hFiles
    | ok files =>
        rw [hResult] at hFiles
        obtain rfl := Option.some.inj hFiles
        exact ⟨_, rfl, (hFound _ hResult).1, by simp⟩
  · have hRelisted : Relisted (sourceTree shopSources) (sourceTree shopSources.reverse) :=
      @Relisted.inside _ _ [] [] _ (.reordered shopSources.reverse_perm.symm)
    rw [hOrder _ hRelisted, hFiles]

/-- A link that leads back to itself hides all files. -/
theorem sources_linkLoop :
    ((sourceTree [("A.java", .link "A.java"), ("B.java", .file [])]).sources
      [.absolute ["src"]] none).toOption = none := by
  decide +kernel

end FileNode

end SpringAudit

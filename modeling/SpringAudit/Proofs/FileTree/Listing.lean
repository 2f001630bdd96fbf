import SpringAudit.Proofs.FileTree.Resolve

/-!
# The order of directory entries

A file tree lists the entries of a directory in some order.  `Relisted` says that two trees
differ in these orders only, at any depth.  Where the names in a directory are different,
such trees are `Alike`: the same names lead to the same things in them.  So paths lead to
the same places and are resolved alike (`Alike.locate_eq`, `Relisted.resolve_eq`).
-/

namespace SpringAudit.FileNode

/-! ## Different names -/

mutual

/-- Whether the names in each directory are different. -/
def hasDistinctNames : FileNode → Bool
  | .file _ => true
  | .link _ => true
  | .directory entries =>
    decide (entries.map Prod.fst).Nodup && haveDistinctNames entries

/-- Whether this is so in each of several trees. -/
def haveDistinctNames : List (Text × FileNode) → Bool
  | [] => true
  | (_, node) :: rest => hasDistinctNames node && haveDistinctNames rest

end

variable {tree other node : FileNode} {entries others : List (Text × FileNode)} {name : Text}
  {names place : List Text}

theorem haveDistinctNames_iff :
    haveDistinctNames entries = true ↔ ∀ entry ∈ entries, entry.2.hasDistinctNames = true := by
  induction entries with
  | nil => simp [haveDistinctNames]
  | cons entry rest ih => simp [haveDistinctNames, ih]

theorem hasDistinctNames_directory_iff :
    (directory entries).hasDistinctNames = true ↔
      (entries.map Prod.fst).Nodup ∧ ∀ entry ∈ entries, entry.2.hasDistinctNames = true := by
  rw [hasDistinctNames, Bool.and_eq_true, decide_eq_true_eq, haveDistinctNames_iff]

/-- With different names every entry is found under its own, so the order of the entries does
not matter. -/
theorem lookup_perm (h : entries.Perm others) (hNames : (entries.map Prod.fst).Nodup)
    (name : Text) : entries.lookup name = others.lookup name := by
  refine Option.ext fun node => ?_
  rw [lookup_eq_some_iff_mem hNames,
    lookup_eq_some_iff_mem ((h.map Prod.fst).nodup_iff.1 hNames), h.mem_iff]

/-- What names lead to has different names as well. -/
theorem hasDistinctNames_of_node? (hTree : tree.hasDistinctNames = true)
    (h : tree.node? names = some node) : node.hasDistinctNames = true := by
  induction names generalizing tree with
  | nil =>
      obtain rfl := Option.some.inj ((node?_nil tree).symm.trans h)
      exact hTree
  | cons name rest ih =>
      cases tree with
      | file content => cases h
      | link target => cases h
      | directory entries =>
          rw [node?] at h
          obtain ⟨below, hLookup, hRest⟩ := Option.bind_eq_some_iff.1 h
          exact ih ((hasDistinctNames_directory_iff.1 hTree).2 _ (mem_of_lookup hLookup)) hRest

/-! ## Trees that differ in the order of entries -/

/-- Two trees differ at most in the order in which directories list their entries. -/
inductive Relisted : FileNode → FileNode → Prop where
  | refl (node : FileNode) : Relisted node node
  | reordered {entries others : List (Text × FileNode)} (h : entries.Perm others) :
      Relisted (.directory entries) (.directory others)
  | inside {node other : FileNode} {front back : List (Text × FileNode)} {name : Text}
      (h : Relisted node other) :
      Relisted (.directory (front ++ (name, node) :: back))
        (.directory (front ++ (name, other) :: back))
  | trans {first second third : FileNode} (h : Relisted first second)
      (h' : Relisted second third) : Relisted first third

/-- A node without what is below it. -/
def bare : FileNode → FileNode
  | .directory _ => .directory []
  | node => node

/-- The same names lead to the same things in two trees. -/
def Alike (tree other : FileNode) : Prop :=
  ∀ names, (tree.node? names).map bare = (other.node? names).map bare

theorem linkCountAmong_append (front back : List (Text × FileNode)) :
    linkCountAmong (front ++ back) = linkCountAmong front + linkCountAmong back := by
  induction front with
  | nil => simp [linkCountAmong]
  | cons entry front ih => simp [linkCountAmong, ih, Nat.add_assoc]

theorem linkCountAmong_perm (h : entries.Perm others) :
    linkCountAmong entries = linkCountAmong others := by
  induction h with
  | nil => rfl
  | cons entry _ ih => simp [linkCountAmong, ih]
  | swap entry entry' rest => simp [linkCountAmong, Nat.add_left_comm]
  | trans _ _ ih ih' => exact ih.trans ih'

namespace Relisted

theorem symm (h : Relisted tree other) : Relisted other tree := by
  induction h with
  | refl node => exact .refl node
  | reordered h => exact .reordered h.symm
  | inside _ ih => exact .inside ih
  | trans _ _ ih ih' => exact .trans ih' ih

theorem linkCount_eq (h : Relisted tree other) : tree.linkCount = other.linkCount := by
  induction h with
  | refl => rfl
  | reordered h => exact linkCountAmong_perm h
  | inside _ ih => simp [linkCount, linkCountAmong_append, linkCountAmong, ih]
  | trans _ _ ih ih' => exact ih.trans ih'

theorem hasDistinctNames_eq (h : Relisted tree other) :
    tree.hasDistinctNames = other.hasDistinctNames := by
  induction h with
  | refl => rfl
  | reordered h =>
      rw [Bool.eq_iff_iff, hasDistinctNames_directory_iff, hasDistinctNames_directory_iff,
        (h.map Prod.fst).nodup_iff]
      simp only [h.mem_iff]
  | inside _ ih =>
      rw [Bool.eq_iff_iff, hasDistinctNames_directory_iff, hasDistinctNames_directory_iff]
      simp only [List.map_append, List.map_cons, List.forall_mem_append, List.forall_mem_cons, ih]
  | trans _ _ ih ih' => exact ih.trans ih'

/-- Where names are different, the order of the entries does not matter for where names lead. -/
theorem alike (h : Relisted tree other) (hNames : tree.hasDistinctNames = true) :
    Alike tree other := by
  induction h with
  | refl => exact fun _ => rfl
  | @reordered entries others h =>
      rw [hasDistinctNames_directory_iff] at hNames
      intro names
      cases names with
      | nil => rfl
      | cons name rest => rw [node?, node?, lookup_perm h hNames.1]
  | @inside node other front back name h ih =>
      rw [hasDistinctNames_directory_iff] at hNames
      have hBelow := ih (hNames.2 (name, node) (by simp))
      intro names
      cases names with
      | nil => rfl
      | cons next rest =>
          rw [node?, node?, List.lookup_append, List.lookup_append]
          cases front.lookup next with
          | some found => rfl
          | none =>
              rw [Option.none_or, Option.none_or, List.lookup_cons, List.lookup_cons]
              cases next == name with
              | true => exact hBelow rest
              | false => rfl
  | trans h _ ih ih' =>
      exact fun names => (ih hNames names).trans (ih' (h.hasDistinctNames_eq ▸ hNames) names)

end Relisted

/-! ## Where paths lead -/

namespace Alike

/-- Names lead to a directory in both trees, or to the same in both. -/
theorem node?_cases (h : Alike tree other) (names : List Text) :
    (∃ entries others, tree.node? names = some (.directory entries) ∧
        other.node? names = some (.directory others)) ∨
      tree.node? names = other.node? names ∧
        ∀ entries, other.node? names ≠ some (.directory entries) := by
  have hHere := h names
  cases hNode : tree.node? names with
  | none =>
      cases hNode' : other.node? names with
      | none => exact .inr ⟨rfl, nofun⟩
      | some node' => simp [hNode, hNode'] at hHere
  | some node =>
      cases hNode' : other.node? names with
      | none => simp [hNode, hNode'] at hHere
      | some node' =>
          rw [hNode, hNode'] at hHere
          cases node <;> cases node' <;> simp [bare] at hHere ⊢ <;> exact hHere

theorem link_iff (h : Alike tree other) {target : Text} :
    tree.node? names = some (.link target) ↔ other.node? names = some (.link target) := by
  rcases h.node?_cases names with ⟨entries, others, hHere, hThere⟩ | ⟨hSame, -⟩
  · simp [hHere, hThere]
  · rw [hSame]

theorem file_iff (h : Alike tree other) {content : List UInt8} :
    tree.node? names = some (.file content) ↔ other.node? names = some (.file content) := by
  rcases h.node?_cases names with ⟨entries, others, hHere, hThere⟩ | ⟨hSame, -⟩
  · simp [hHere, hThere]
  · rw [hSame]

theorem exists_directory_iff (h : Alike tree other) :
    (∃ entries, tree.node? names = some (.directory entries)) ↔
      ∃ entries, other.node? names = some (.directory entries) := by
  rcases h.node?_cases names with ⟨entries, others, hHere, hThere⟩ | ⟨hSame, -⟩
  · simp [hHere, hThere]
  · rw [hSame]

theorem follow_eq (h : Alike tree other)
    (onLink : List Text → Path → List Text → Except AccessError (List Text)) :
    tree.follow onLink place names = other.follow onLink place names := by
  induction names generalizing place with
  | nil => rfl
  | cons name rest ih =>
      rcases h.node?_cases place with ⟨entries, others, hHere, hThere⟩ | ⟨hSame, hNone⟩
      · simp only [follow, hHere, hThere]
        by_cases hUp : name = Path.upward
        · rw [if_pos hUp, if_pos hUp, ih]
        · rw [if_neg hUp, if_neg hUp, ← node?_concat hHere, ← node?_concat hThere]
          rcases h.node?_cases (place ++ [name]) with ⟨_, _, hNext, hNext'⟩ | ⟨hNext, -⟩
          · simp only [hNext, hNext', ih]
          · rw [hNext]
            cases other.node? (place ++ [name]) with
            | none => rfl
            | some node => cases node <;> simp only [ih]
      · rw [follow, follow, hSame]
        cases hNode : other.node? place with
        | none => rfl
        | some node =>
            cases node with
            | file content => rfl
            | link target => rfl
            | directory entries => exact absurd hNode (hNone entries)

theorem followUpTo_eq (h : Alike tree other) (links : Nat) :
    tree.followUpTo links place names = other.followUpTo links place names := by
  induction links generalizing place names with
  | zero => exact h.follow_eq _
  | succ links ih =>
      rw [followUpTo, followUpTo, h.follow_eq]
      simp only [ih]

theorem locate_eq (h : Alike tree other) (p : Path) : tree.locate p = other.locate p :=
  h.followUpTo_eq maxLinks

theorem isDirectoryAt_eq (h : Alike tree other) (p : Path) :
    tree.isDirectoryAt p = other.isDirectoryAt p := by
  rw [Bool.eq_iff_iff, isDirectoryAt_iff, isDirectoryAt_iff, h.locate_eq]
  refine exists_congr fun place => ?_
  rw [exists_and_left, exists_and_left, h.exists_directory_iff]

theorem resolveNames_eq (h : Alike tree other)
    (enter : List Text → List Text → Path → List Text × Bool) :
    tree.resolveNames enter place names = other.resolveNames enter place names := by
  induction names generalizing place with
  | nil => rfl
  | cons name rest ih =>
      rw [resolveNames, resolveNames]
      rcases h.node?_cases (place ++ [name]) with ⟨_, _, hNext, hNext'⟩ | ⟨hNext, -⟩
      · simp only [hNext, hNext', ih]
      · simp only [hNext, ih]

theorem resolveUpTo_eq (h : Alike tree other) (depth : Nat) (entered : List (List Text)) :
    tree.resolveUpTo depth entered place names = other.resolveUpTo depth entered place names := by
  induction depth generalizing entered place names with
  | zero => exact h.resolveNames_eq _
  | succ depth ih =>
      rw [resolveUpTo, resolveUpTo, h.resolveNames_eq]
      simp only [ih]

end Alike

theorem Relisted.resolve_eq (h : Relisted tree other) (hNames : tree.hasDistinctNames = true)
    (p : Path) : tree.resolve p = other.resolve p := by
  have hAlike := h.alike hNames
  unfold resolve
  rw [hAlike.resolveUpTo_eq, h.linkCount_eq]
  simp only [hAlike.locate_eq]

end SpringAudit.FileNode

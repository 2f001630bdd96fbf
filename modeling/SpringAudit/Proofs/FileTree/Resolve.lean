import SpringAudit.FileTree.Resolve
import SpringAudit.Proofs.FileTree.Nodes
import SpringAudit.Proofs.Traversal

/-!
# Resolving a path that leads somewhere

A path is followed with a bound on the links in all, and resolved with a bound on the
links inside of each other.  `Leads` is the way itself, without a bound and with the
number of its steps.  It settles both: the way is determined by where it starts, so a link
cannot be met on the way that resolves it, and no more links are inside of each other than
there are in the tree.

The main results are about paths that lead to a directory.  They can be resolved, the
resolved path is the place of the directory (`LocatesDirectory.resolve_eq`), and names
added to both paths resolve alike (`LocatesDirectory.resolve_append`).  Paths that lead
nowhere are not covered.
-/

namespace SpringAudit.FileNode

/-- Where the target of a link is followed from, given the place that the link stands in. -/
def linkStart (place : List Text) (target : Path) : List Text :=
  if target.isAbsolute then [] else place

/-- The way from a place along names, links entered, with the number of its steps. -/
inductive Leads (tree : FileNode) : List Text → List Text → List Text → Nat → Prop where
  | arrived (place : List Text) : Leads tree place [] place 0
  | goesUp {place rest found : List Text} {steps : Nat} {entries : List (Text × FileNode)}
      (hHere : tree.node? place = some (.directory entries))
      (hRest : Leads tree place.dropLast rest found steps) :
      Leads tree place (Path.upward :: rest) found (steps + 1)
  | goesDown {place rest found : List Text} {name : Text} {steps : Nat} {node : FileNode}
      (hName : name ≠ Path.upward) (hNode : tree.node? (place ++ [name]) = some node)
      (hNoLink : node.isLink = false) (hRest : Leads tree (place ++ [name]) rest found steps) :
      Leads tree place (name :: rest) found (steps + 1)
  | throughLink {place rest middle found : List Text} {name target : Text} {inside steps : Nat}
      (hName : name ≠ Path.upward) (hNode : tree.node? (place ++ [name]) = some (.link target))
      (hTarget : Leads tree (linkStart place (.ofText target)) (Path.ofText target).names middle
        inside)
      (hRest : Leads tree middle rest found steps) :
      Leads tree place (name :: rest) found (inside + steps + 1)

variable {tree : FileNode} {place names more found : List Text} {steps : Nat}

namespace Leads

/-- A way along two lists of names goes along one after the other. -/
theorem append_inv (h : Leads tree place (names ++ more) found steps) :
    ∃ middle first second, Leads tree place names middle first ∧
      Leads tree middle more found second ∧ steps = first + second := by
  induction names generalizing place steps with
  | nil => exact ⟨place, 0, steps, .arrived place, h, (Nat.zero_add steps).symm⟩
  | cons name rest ih =>
      cases h with
      | goesUp hHere hRest =>
          obtain ⟨middle, first, second, hFirst, hSecond, rfl⟩ := ih hRest
          exact ⟨middle, _, second, .goesUp hHere hFirst, hSecond, by omega⟩
      | goesDown hName hNode hNoLink hRest =>
          obtain ⟨middle, first, second, hFirst, hSecond, rfl⟩ := ih hRest
          exact ⟨middle, _, second, .goesDown hName hNode hNoLink hFirst, hSecond, by omega⟩
      | throughLink hName hNode hTarget hRest =>
          obtain ⟨middle, first, second, hFirst, hSecond, rfl⟩ := ih hRest
          exact ⟨middle, _, second, .throughLink hName hNode hTarget hFirst, hSecond, by omega⟩

/-- The way is determined by its start and the names. -/
theorem unique {found' : List Text} {steps' : Nat} (h : Leads tree place names found steps)
    (h' : Leads tree place names found' steps') : found = found' ∧ steps = steps' := by
  induction h generalizing found' steps' with
  | arrived place =>
      cases h'
      exact ⟨rfl, rfl⟩
  | goesUp hHere hRest ih =>
      cases h' with
      | goesUp _ hRest' =>
          obtain ⟨rfl, rfl⟩ := ih hRest'
          exact ⟨rfl, rfl⟩
      | goesDown hName => exact absurd rfl hName
      | throughLink hName => exact absurd rfl hName
  | goesDown hName hNode hNoLink hRest ih =>
      cases h' with
      | goesUp => exact absurd rfl hName
      | goesDown _ _ _ hRest' =>
          obtain ⟨rfl, rfl⟩ := ih hRest'
          exact ⟨rfl, rfl⟩
      | throughLink _ hNode' =>
          obtain rfl := Option.some.inj (hNode.symm.trans hNode')
          cases hNoLink
  | throughLink hName hNode hTarget hRest ihTarget ihRest =>
      cases h' with
      | goesUp => exact absurd rfl hName
      | goesDown _ hNode' hNoLink =>
          obtain rfl := Option.some.inj (hNode.symm.trans hNode')
          cases hNoLink
      | throughLink _ hNode' hTarget' hRest' =>
          obtain rfl := FileNode.link.inj (Option.some.inj (hNode.symm.trans hNode'))
          obtain ⟨rfl, rfl⟩ := ihTarget hTarget'
          obtain ⟨rfl, rfl⟩ := ihRest hRest'
          exact ⟨rfl, rfl⟩

end Leads

/-! ## Following -/

section Following

variable {onLink : List Text → Path → List Text → Except AccessError (List Text)}

/-- What is followed to an end goes a way, if this is so behind each link. -/
theorem exists_leads_of_follow
    (hLink : ∀ place target rest found,
      onLink place (.ofText target) rest = .ok found →
        ∃ steps, Leads tree (linkStart place (.ofText target))
          ((Path.ofText target).names ++ rest) found steps)
    (h : tree.follow onLink place names = .ok found) :
    ∃ steps, Leads tree place names found steps := by
  induction names generalizing place with
  | nil =>
      obtain rfl := Except.ok.inj h
      exact ⟨0, .arrived place⟩
  | cons name rest ih =>
      rw [follow] at h
      split at h
      · next entries hHere =>
        by_cases hUp : name = Path.upward
        · subst hUp
          rw [if_pos rfl] at h
          obtain ⟨steps, hRest⟩ := ih h
          exact ⟨_, .goesUp hHere hRest⟩
        · rw [if_neg hUp] at h
          have hNode := node?_concat hHere name
          split at h
          · cases h
          · next target hLookup =>
            obtain ⟨steps, hAll⟩ := hLink _ _ _ _ h
            obtain ⟨middle, inside, after, hTarget, hRest, -⟩ := hAll.append_inv
            exact ⟨_, .throughLink hUp (hNode.trans hLookup) hTarget hRest⟩
          · next node hNoLink hLookup =>
            obtain ⟨steps, hRest⟩ := ih h
            refine ⟨_, .goesDown hUp (hNode.trans hLookup) ?_ hRest⟩
            cases node with
            | link target => exact absurd rfl (hNoLink target)
            | file content => rfl
            | directory entries => rfl
      · cases h

theorem exists_leads_of_followUpTo {links : Nat}
    (h : tree.followUpTo links place names = .ok found) :
    ∃ steps, Leads tree place names found steps := by
  induction links generalizing place names found with
  | zero =>
      refine exists_leads_of_follow (fun _ _ _ _ hLink => ?_) h
      cases hLink
  | succ links ih => exact exists_leads_of_follow (fun _ _ _ _ hLink => ih hLink) h

end Following

/-! ## Places without links on the way -/

/-- A place that names lead to without any link and without going up. -/
structure IsPlace (tree : FileNode) (place : List Text) : Prop where
  noUpward : Path.upward ∉ place
  noLink : ∃ node, tree.node? place = some node ∧ node.isLink = false

namespace IsPlace

theorem dropLast (h : tree.IsPlace place) : tree.IsPlace place.dropLast := by
  refine ⟨fun hMem => h.noUpward (List.dropLast_subset place hMem), ?_⟩
  obtain ⟨node, hNode, hNoLink⟩ := h.noLink
  by_cases hRoot : place = []
  · subst hRoot
    exact ⟨node, hNode, hNoLink⟩
  · obtain ⟨entries, hAbove⟩ := exists_entries_dropLast hNode hRoot
    exact ⟨_, hAbove, rfl⟩

theorem root (h : tree.IsPlace place) : tree.IsPlace [] := by
  refine ⟨List.not_mem_nil, tree, node?_nil tree, ?_⟩
  obtain ⟨node, hNode, hNoLink⟩ := h.noLink
  cases tree with
  | file content => rfl
  | directory entries => rfl
  | link target =>
      cases place with
      | nil =>
          obtain rfl := Option.some.inj hNode
          exact hNoLink
      | cons name rest => cases hNode

theorem below {name : Text} {node : FileNode} (h : tree.IsPlace place)
    (hName : name ≠ Path.upward) (hNode : tree.node? (place ++ [name]) = some node)
    (hNoLink : node.isLink = false) : tree.IsPlace (place ++ [name]) := by
  refine ⟨?_, node, hNode, hNoLink⟩
  rw [List.mem_append, List.mem_singleton]
  rintro (hMem | hSame)
  · exact h.noUpward hMem
  · exact hName hSame.symm

theorem linkStart (h : tree.IsPlace place) (target : Path) :
    tree.IsPlace (linkStart place target) := by
  unfold FileNode.linkStart
  split
  · exact h.root
  · exact h

/-- A way from a place ends in a place. -/
theorem of_leads (hWay : Leads tree place names found steps) (h : tree.IsPlace place) :
    tree.IsPlace found := by
  induction hWay with
  | arrived place => exact h
  | goesUp _ _ ih => exact ih h.dropLast
  | goesDown hName hNode hNoLink _ ih => exact ih (h.below hName hNode hNoLink)
  | throughLink _ _ _ _ ihTarget ihRest => exact ihRest (ihTarget (h.linkStart _))

end IsPlace

/-- Names that lead from one place to another without a link are followed. -/
theorem follow_place {onLink : List Text → Path → List Text → Except AccessError (List Text)}
    (h : tree.IsPlace (place ++ names)) :
    tree.follow onLink place names = .ok (place ++ names) := by
  induction names generalizing place with
  | nil => rw [follow, List.append_nil]
  | cons name rest ih =>
      obtain ⟨node, hNode, hNoLink⟩ := h.noLink
      obtain ⟨entries, hHere⟩ := exists_entries_of_append hNode
      have hName : name ≠ Path.upward := by
        rintro rfl
        exact h.noUpward (by simp)
      rw [List.append_cons] at h
      have hLookup := node?_concat hHere name
      -- What comes next is the end of the way or, with names left, a directory.
      have hNext : ∃ next, entries.lookup name = some next ∧ next.isLink = false := by
        cases rest with
        | nil => exact ⟨node, hLookup ▸ hNode, hNoLink⟩
        | cons second rest =>
            rw [List.append_cons] at hNode
            obtain ⟨below, hBelow⟩ := exists_entries_of_append hNode
            exact ⟨_, hLookup ▸ hBelow, rfl⟩
      obtain ⟨next, hEntry, hNextNoLink⟩ := hNext
      rw [List.append_cons, ← ih h]
      cases next with
      | link target => cases hNextNoLink
      | file content => simp only [follow, hHere, if_neg hName, hEntry]
      | directory entries' => simp only [follow, hHere, if_neg hName, hEntry]

/-- A place is where its own path leads. -/
theorem locate_place (h : tree.IsPlace place) : tree.locate (.absolute place) = .ok place := by
  have hWalk (onLink : List Text → Path → List Text → Except AccessError (List Text)) :
      tree.follow onLink [] place = .ok place := follow_place h
  exact hWalk _

/-! ## Resolving -/

/-- How a link is resolved while others are, given how many more may be inside of it. -/
def enterLink (tree : FileNode) (depth : Nat) (entered : List (List Text))
    (link place : List Text) (target : Path) : List Text × Bool :=
  match depth with
  | 0 => (link, false)
  | depth + 1 =>
    if entered.contains link then (link, false)
    else tree.resolveUpTo depth (link :: entered) (linkStart place target) target.names

theorem resolveUpTo_eq (depth : Nat) (entered : List (List Text)) :
    tree.resolveUpTo depth entered = tree.resolveNames (tree.enterLink depth entered) := by
  cases depth <;> rfl

/-- Links whose targets are being followed, with at most a number of steps left of each. -/
def Open (tree : FileNode) (entered : List (List Text)) (steps : Nat) : Prop :=
  ∀ link ∈ entered, ∃ target found inside, tree.node? link = some (.link target) ∧
    Leads tree (linkStart link.dropLast (.ofText target)) (Path.ofText target).names found inside ∧
    steps ≤ inside

theorem Open.mono {entered : List (List Text)} {fewer : Nat} (h : tree.Open entered steps)
    (hFewer : fewer ≤ steps) : tree.Open entered fewer := by
  intro link hMem
  obtain ⟨target, found, inside, hNode, hWay, hSteps⟩ := h link hMem
  exact ⟨target, found, inside, hNode, hWay, Nat.le_trans hFewer hSteps⟩

section Entering

variable {entered : List (List Text)} {middle : List Text} {name target : Text} {inside : Nat}

/-- A link is not met on the way of its own target, which would have no end. -/
theorem Open.not_mem (h : tree.Open entered steps)
    (hNode : tree.node? (place ++ [name]) = some (.link target))
    (hTarget : Leads tree (linkStart place (.ofText target)) (Path.ofText target).names middle
      inside)
    (hSteps : inside < steps) : place ++ [name] ∉ entered := by
  intro hMem
  obtain ⟨target', found, inside', hNode', hWay, hLeft⟩ := h _ hMem
  obtain rfl := FileNode.link.inj (Option.some.inj (hNode.symm.trans hNode'))
  rw [List.dropLast_concat] at hWay
  obtain ⟨-, rfl⟩ := hTarget.unique hWay
  omega

/-- Entering a link opens it as well. -/
theorem Open.cons (h : tree.Open entered steps)
    (hNode : tree.node? (place ++ [name]) = some (.link target))
    (hTarget : Leads tree (linkStart place (.ofText target)) (Path.ofText target).names middle
      inside)
    (hSteps : inside ≤ steps) : tree.Open ((place ++ [name]) :: entered) inside := by
  intro link hMem
  rcases List.mem_cons.1 hMem with rfl | hMem
  · rw [List.dropLast_concat]
    exact ⟨target, middle, inside, hNode, hTarget, Nat.le_refl inside⟩
  · exact h.mono hSteps link hMem

/-- Open links are at most as many as there are links. -/
theorem Open.length_le (h : tree.Open entered steps) (hDistinct : entered.Nodup) :
    entered.length ≤ tree.linkCount := by
  refine length_le_linkCount hDistinct fun link hMem => ?_
  obtain ⟨target, -, -, hNode, -⟩ := h link hMem
  exact ⟨target, hNode⟩

end Entering

/-- Resolving goes the way and is not cut short. -/
theorem resolveUpTo_of_leads {depth : Nat} {entered : List (List Text)}
    (h : Leads tree place names found steps) (hOpen : tree.Open entered steps)
    (hDistinct : entered.Nodup) (hDepth : tree.linkCount < depth + entered.length) :
    tree.resolveUpTo depth entered place names = (found, true) := by
  induction h generalizing depth entered with
  | arrived place =>
      rw [resolveUpTo_eq]
      rfl
  | goesUp hHere hRest ih =>
      rw [resolveUpTo_eq, resolveNames, if_pos rfl, ← resolveUpTo_eq]
      exact ih (hOpen.mono (Nat.le_succ _)) hDistinct hDepth
  | @goesDown place rest found name steps node hName hNode hNoLink hRest ih =>
      have hStep := ih (hOpen.mono (Nat.le_succ _)) hDistinct hDepth
      rw [resolveUpTo_eq] at hStep ⊢
      rw [resolveNames, if_neg hName]
      cases node with
      | link target => cases hNoLink
      | file content => simp only [hNode, hStep]
      | directory entries => simp only [hNode, hStep]
  | @throughLink place rest middle found name target inside steps hName hNode hTarget hRest
      ihTarget ihRest =>
      have hNew : place ++ [name] ∉ entered := hOpen.not_mem hNode hTarget (by omega)
      have hInside := hOpen.cons hNode hTarget (by omega)
      have hDistinct' : ((place ++ [name]) :: entered).Nodup :=
        List.nodup_cons.2 ⟨hNew, hDistinct⟩
      have hCount := hInside.length_le hDistinct'
      rw [List.length_cons] at hCount
      obtain ⟨depth, rfl⟩ : ∃ d, depth = d + 1 := ⟨depth - 1, by omega⟩
      have hMiddle : tree.resolveUpTo depth ((place ++ [name]) :: entered)
          (linkStart place (.ofText target)) (Path.ofText target).names = (middle, true) :=
        ihTarget hInside hDistinct' (by rw [List.length_cons]; omega)
      have hStep := ihRest (hOpen.mono (by omega)) hDistinct hDepth
      have hEnter : tree.enterLink (depth + 1) entered (place ++ [name]) place (.ofText target) =
          (middle, true) := by
        rw [enterLink, if_neg (by simpa using hNew), hMiddle]
      rw [resolveUpTo_eq] at hStep ⊢
      rw [resolveNames, if_neg hName]
      simp only [hNode, hEnter, hStep]

/-! ## The resolved path -/

/-- Names without a double dot are normal. -/
theorem normalizeNames_eq (h : Path.upward ∉ names) : Path.normalizeNames names = names := by
  have hFold (kept : List Text) :
      names.foldl (fun kept name => if name = Path.upward then kept.drop 1 else name :: kept)
        kept = names.reverse ++ kept := by
    induction names generalizing kept with
    | nil => rfl
    | cons name rest ih =>
        have hName : name ≠ Path.upward := fun hSame => h (by simp [hSame])
        rw [List.foldl_cons, if_neg hName, ih (fun hMem => h (List.mem_cons_of_mem name hMem)),
          List.reverse_cons, List.append_assoc]
        rfl
  rw [Path.normalizeNames, hFold, List.append_nil, List.reverse_reverse]

/-- What a path is resolved to, if anything. -/
theorem resolve_eq_ok_iff {p q : Path} :
    tree.resolve p = .ok q ↔
      q = .absolute (Path.normalizeNames
        (tree.resolveUpTo (tree.linkCount + 1) [] [] p.names).1) ∧
      tree.locate q ≠ .error .tooManyLinks := by
  unfold FileNode.resolve
  obtain ⟨found, arrived⟩ := tree.resolveUpTo (tree.linkCount + 1) [] [] p.names
  simp only
  constructor
  · intro h
    split at h
    · cases h
    · next hLocate =>
      obtain rfl := Except.ok.inj h
      exact ⟨rfl, hLocate⟩
  · rintro ⟨rfl, hLocate⟩
    split
    · next hLoop => exact absurd hLoop hLocate
    · rfl

/-- Names behind those that are resolved are resolved from there. -/
theorem resolveNames_append {enter : List Text → List Text → Path → List Text × Bool}
    {middle : List Text} (h : tree.resolveNames enter place names = (middle, true)) :
    tree.resolveNames enter place (names ++ more) = tree.resolveNames enter middle more := by
  induction names generalizing place with
  | nil =>
      obtain rfl := (Prod.mk.inj h).1
      rfl
  | cons name rest ih =>
      rw [resolveNames] at h
      rw [List.cons_append, resolveNames]
      by_cases hUp : name = Path.upward
      · rw [if_pos hUp] at h ⊢
        exact ih h
      · rw [if_neg hUp] at h ⊢
        simp only at h ⊢
        split at h
        · next target hNode =>
          split at h
          · next found hEnter => exact ih h
          · cases (Prod.mk.inj h).2
        · exact ih h

/-- A path that leads to a place where there is a directory. -/
structure LocatesDirectory (tree : FileNode) (p : Path) (place : List Text) : Prop where
  isPlace : tree.IsPlace place
  directory : ∃ entries, tree.node? place = some (.directory entries)
  locate : tree.locate p = .ok place
  resolve : tree.resolveUpTo (tree.linkCount + 1) [] [] p.names = (place, true)

/-- A path leads to what stands at the place where it is located. -/
theorem access_eq_ok_iff {p : Path} {node : FileNode} :
    tree.access p = .ok node ↔
      ∃ place, tree.locate p = .ok place ∧ tree.node? place = some node := by
  rw [access, bind_eq_ok_iff]
  refine exists_congr fun place => and_congr_right fun _ => ?_
  cases tree.node? place with
  | none => exact ⟨nofun, nofun⟩
  | some found =>
      exact ⟨fun h => congrArg some (Except.ok.inj h),
        fun h => congrArg Except.ok (Option.some.inj h)⟩

theorem isDirectoryAt_iff {p : Path} :
    tree.isDirectoryAt p = true ↔
      ∃ place entries, tree.locate p = .ok place ∧
        tree.node? place = some (.directory entries) := by
  rw [isDirectoryAt]
  constructor
  · intro h
    cases hAccess : tree.access p with
    | error e => simp [hAccess] at h
    | ok node =>
        obtain ⟨place, hLocate, hNode⟩ := access_eq_ok_iff.1 hAccess
        rw [hAccess] at h
        cases node with
        | directory entries => exact ⟨place, entries, hLocate, hNode⟩
        | file content => cases h
        | link target => cases h
  · rintro ⟨place, entries, hLocate, hNode⟩
    rw [access_eq_ok_iff.2 ⟨place, hLocate, hNode⟩]
    rfl

/-- A tree with a directory in it is a place. -/
theorem isPlace_nil_of_directory {entries : List (Text × FileNode)}
    (h : tree.node? place = some (.directory entries)) : tree.IsPlace [] := by
  refine ⟨List.not_mem_nil, tree, node?_nil tree, ?_⟩
  cases tree with
  | file content => rfl
  | directory entries => rfl
  | link target => cases place <;> cases h

/-- A path that leads to a directory leads to a place. -/
theorem exists_locatesDirectory {p : Path} (h : tree.isDirectoryAt p = true) :
    ∃ place, tree.LocatesDirectory p place := by
  obtain ⟨place, entries, hLocate, hNode⟩ := isDirectoryAt_iff.1 h
  obtain ⟨steps, hWay⟩ := exists_leads_of_followUpTo hLocate
  have hOpen : tree.Open [] steps := fun link hMem => absurd hMem List.not_mem_nil
  exact ⟨place, .of_leads hWay (isPlace_nil_of_directory hNode), ⟨entries, hNode⟩, hLocate,
    resolveUpTo_of_leads hWay hOpen List.nodup_nil (by simp)⟩

namespace LocatesDirectory

variable {p q : Path}

/-- The place of a directory leads to itself. -/
theorem self (h : tree.LocatesDirectory p place) :
    tree.LocatesDirectory (.absolute place) place := by
  obtain ⟨entries, hNode⟩ := h.directory
  have hLocate := locate_place h.isPlace
  obtain ⟨found, hFound⟩ := exists_locatesDirectory
    (isDirectoryAt_iff.2 ⟨place, entries, hLocate, hNode⟩)
  obtain rfl := Except.ok.inj (hLocate.symm.trans hFound.locate)
  exact hFound

/-- The resolved form of a path to a directory is the place of the directory. -/
theorem resolve_eq (h : tree.LocatesDirectory p place) :
    tree.resolve p = .ok (.absolute place) := by
  rw [resolve_eq_ok_iff, h.resolve, normalizeNames_eq h.isPlace.noUpward, h.self.locate]
  exact ⟨rfl, nofun⟩

/-- Names below a directory are resolved alike from all paths that lead to it. -/
theorem resolve_append (h : tree.LocatesDirectory p place) (more : List Text) :
    tree.resolve ⟨p.isAbsolute, p.names ++ more⟩ = .ok q ↔
      tree.resolve (.absolute (place ++ more)) = .ok q := by
  have hNames (start : Path) (hStart : tree.LocatesDirectory start place) :
      tree.resolveUpTo (tree.linkCount + 1) [] [] (start.names ++ more) =
        tree.resolveUpTo (tree.linkCount + 1) [] place more := by
    have hResolve := hStart.resolve
    rw [resolveUpTo_eq] at hResolve ⊢
    exact resolveNames_append hResolve
  have hSelf : tree.resolveUpTo (tree.linkCount + 1) [] [] (Path.absolute (place ++ more)).names =
      tree.resolveUpTo (tree.linkCount + 1) [] place more := hNames (.absolute place) h.self
  rw [resolve_eq_ok_iff, resolve_eq_ok_iff, hNames p h, hSelf]

end LocatesDirectory

end SpringAudit.FileNode

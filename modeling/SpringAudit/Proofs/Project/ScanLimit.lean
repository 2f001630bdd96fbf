import SpringAudit.Proofs.Project.Scan

/-!
# A limit on the number of source files

A search for source files may be limited to a number of them.  The limit is looked at after
each file that is added (`collect`), so one file is found even if none is allowed.  For all
other limits the search finds the first files of those that it finds without a limit
(`sources_limit_account`).

With a limit the search may end before it comes to a root whose files have no resolved
path, and then it succeeds where the search without a limit does not.  `sourcesFrom_append`
covers both: a search over some roots goes on with the roots behind them, unless these have
given enough files.
-/

namespace SpringAudit.FileNode

/-! ## One file after another -/

/-- The found paths with the new ones of a list behind them, and whether the limit is reached.
The limit is looked at after each new path. -/
def collectNew (limit : Option Int) : List Path → List Path → List Path × Bool
  | found, [] => (found, false)
  | found, p :: rest =>
    if found.contains p then collectNew limit found rest
    else if limit.any fun most => decide (most ≤ Int.ofNat (found ++ [p]).length) then
      (found ++ [p], true)
    else collectNew limit (found ++ [p]) rest

/-- The source files below several roots behind those found before, one after another until
the limit is reached. -/
def collect (tree : FileNode) (limit : Option Int) :
    List Path → List Path → Except LinkLoop (List Path)
  | found, [] => .ok found
  | found, root :: rest => do
    let (all, reached) := collectNew limit found (← tree.sortedSources root)
    if reached then return all else tree.collect limit all rest

/-- The number of files that a limit allows, which is one for limits below one too. -/
def allowed (most : Int) : Nat :=
  max 1 most.toNat

variable {tree : FileNode} {found roots front back files l : List Path} {root p : Path}
  {most : Int}

theorem one_le_allowed (most : Int) : 1 ≤ allowed most :=
  Nat.le_max_left 1 most.toNat

/-- Once there is a file, the limit is reached exactly if there are as many as are allowed. -/
theorem le_length_iff (hSome : 1 ≤ files.length) :
    most ≤ Int.ofNat files.length ↔ allowed most ≤ files.length := by
  rw [allowed, Int.ofNat_eq_natCast]
  omega

/-- Which paths of a list are new depends on the set of those found before. -/
theorem newPaths_congr {seen seen' : List Path} (h : ∀ p, p ∈ seen ↔ p ∈ seen') (l : List Path) :
    newPaths seen l = newPaths seen' l := by
  induction l generalizing seen seen' with
  | nil => rfl
  | cons q rest ih =>
      have hContains : seen.contains q = seen'.contains q := by
        simp [h]
      have hMore : ∀ p, p ∈ q :: seen ↔ p ∈ q :: seen' := by
        simp [h]
      rw [newPaths, newPaths, hContains, ih h, ih hMore]

/-- A path that is new is added, and the paths behind it are new if they differ from it too. -/
theorem newPaths_cons_of_notMem (hNew : p ∉ found) (rest : List Path) :
    newPaths found (p :: rest) = p :: newPaths (found ++ [p]) rest := by
  have hSame : ∀ q, q ∈ p :: found ↔ q ∈ found ++ [p] := by
    simp [or_comm]
  rw [newPaths, if_neg (by simpa using hNew), newPaths_congr hSame]

theorem newPaths_cons_of_mem (hOld : p ∈ found) (rest : List Path) :
    newPaths found (p :: rest) = newPaths found rest := by
  rw [newPaths, if_pos (by simpa using hOld)]

/-- Without a limit all new paths are added. -/
theorem collectNew_none (found l : List Path) :
    collectNew none found l = (found ++ newPaths found l, false) := by
  induction l generalizing found with
  | nil => simp [collectNew, newPaths]
  | cons p rest ih =>
      rw [collectNew]
      by_cases hOld : p ∈ found
      · rw [if_pos (by simpa using hOld), ih, newPaths_cons_of_mem hOld]
      · rw [if_neg (by simpa using hOld), Option.any_none, if_neg (by simp), ih,
          newPaths_cons_of_notMem hOld, List.append_assoc, List.singleton_append]

/-- With a limit that is not reached before, new paths are added as long as they are allowed. -/
theorem collectNew_some (hFound : found.length < allowed most) :
    collectNew (some most) found l =
      if (found ++ newPaths found l).length < allowed most then
        (found ++ newPaths found l, false)
      else ((found ++ newPaths found l).take (allowed most), true) := by
  induction l generalizing found with
  | nil =>
      rw [newPaths, List.append_nil, if_pos hFound, collectNew]
  | cons p rest ih =>
      rw [collectNew]
      by_cases hOld : p ∈ found
      · rw [if_pos (by simpa using hOld), ih hFound, newPaths_cons_of_mem hOld]
      · have hAll : found ++ newPaths found (p :: rest) =
            (found ++ [p]) ++ newPaths (found ++ [p]) rest := by
          rw [newPaths_cons_of_notMem hOld, List.append_assoc, List.singleton_append]
        have hReached : most ≤ Int.ofNat (found ++ [p]).length ↔
            allowed most ≤ (found ++ [p]).length := le_length_iff (by simp)
        rw [if_neg (by simpa using hOld), hAll, Option.any_some]
        by_cases hEnough : allowed most ≤ (found ++ [p]).length
        · -- The limit is reached by this path, so there were one fewer before it.
          have hExact : (found ++ [p]).length = allowed most := by
            rw [List.length_append, List.length_singleton] at hEnough ⊢
            omega
          rw [if_pos (by simpa using hReached.2 hEnough), if_neg (by simp at hExact ⊢; omega),
            ← hExact, List.take_left]
        · rw [if_neg (by simpa using fun h => hEnough (hReached.1 h)), ih (by omega)]

/-! ## The roots before the limit is reached -/

/-- What was found before stays in front. -/
theorem prefix_of_sourcesFrom (h : tree.sourcesFrom none found roots = .ok files) :
    found <+: files := by
  induction roots generalizing found with
  | nil =>
      obtain rfl := Except.ok.inj h
      exact List.prefix_rfl
  | cons root rest ih =>
      obtain ⟨l, -, hRest⟩ := bind_eq_ok_iff.1 h
      exact (List.prefix_append found (newPaths found l)).trans (ih hRest)

/-- A root whose files are known: the search goes on, unless there are enough. -/
theorem sourcesFrom_some_cons (hFound : found.length < allowed most)
    (hRoot : tree.sortedSources root = .ok l) :
    tree.sourcesFrom (some most) found (root :: roots) =
      if (found ++ newPaths found l).length < allowed most then
        tree.sourcesFrom (some most) (found ++ newPaths found l) roots
      else .ok ((found ++ newPaths found l).take (allowed most)) := by
  have hStep : tree.sourcesFrom (some most) found (root :: roots) =
      if (newPaths found l).isEmpty || Int.ofNat (found ++ newPaths found l).length < most then
        tree.sourcesFrom (some most) (found ++ newPaths found l) roots
      else .ok ((found ++ newPaths found l).take (allowed most)) := by
    rw [sourcesFrom, hRoot]
    rfl
  rw [hStep]
  by_cases hNone : newPaths found l = []
  · rw [hNone, List.append_nil, List.isEmpty_nil, Bool.true_or, if_pos rfl, if_pos hFound]
  · have hSome : 1 ≤ (found ++ newPaths found l).length := by
      have := List.length_pos_of_ne_nil hNone
      rw [List.length_append]
      omega
    have hReached : most ≤ Int.ofNat (found ++ newPaths found l).length ↔
        allowed most ≤ (found ++ newPaths found l).length := le_length_iff hSome
    have hSame : ((newPaths found l).isEmpty ||
        Int.ofNat (found ++ newPaths found l).length < most) = true ↔
        (found ++ newPaths found l).length < allowed most := by
      rw [Bool.or_eq_true, decide_eq_true_eq, List.isEmpty_iff, ← Int.not_le,
        ← Nat.not_le, hReached]
      simp [hNone]
    by_cases hFew : (found ++ newPaths found l).length < allowed most
    · rw [if_pos (hSame.2 hFew), if_pos hFew]
    · rw [if_neg fun h => hFew (hSame.1 h), if_neg hFew]

/-- A search over some roots goes on with the roots behind them, unless there are enough files
already; then it gives the first of these. -/
theorem sourcesFrom_append (hFound : found.length < allowed most)
    (h : tree.sourcesFrom none found front = .ok files) :
    tree.sourcesFrom (some most) found (front ++ back) =
      if files.length < allowed most then tree.sourcesFrom (some most) files back
      else .ok (files.take (allowed most)) := by
  induction front generalizing found with
  | nil =>
      obtain rfl := Except.ok.inj h
      rw [List.nil_append, if_pos hFound]
  | cons root rest ih =>
      -- The invariant of the induction is `hFound`: the limit has not been reached so far.
      obtain ⟨l, hRoot, hRest⟩ := bind_eq_ok_iff.1 h
      rw [List.cons_append, sourcesFrom_some_cons hFound hRoot]
      by_cases hFew : (found ++ newPaths found l).length < allowed most
      · rw [if_pos hFew, ih hFew hRest]
      · -- The roots that follow add files only behind those that are taken.
        obtain ⟨more, rfl⟩ := prefix_of_sourcesFrom hRest
        have hEnough : allowed most ≤ (found ++ newPaths found l).length := Nat.not_lt.1 hFew
        have hAll : ¬ (found ++ newPaths found l ++ more).length < allowed most := by
          rw [List.length_append]
          omega
        rw [if_neg hFew, if_neg hAll, List.take_append_of_le_length hEnough]

/-- A search without a limit fails at the first root that has a file without resolved path. -/
theorem exists_of_sourcesFrom_none_eq_error {e : LinkLoop}
    (h : tree.sourcesFrom none found roots = .error e) :
    ∃ front root back files, roots = front ++ root :: back ∧
      tree.sourcesFrom none found front = .ok files ∧ tree.sortedSources root = .error e := by
  induction roots generalizing found with
  | nil => cases h
  | cons root rest ih =>
      cases hRoot : tree.sortedSources root with
      | error e' =>
          rw [sourcesFrom, hRoot] at h
          obtain rfl := Except.error.inj h
          exact ⟨[], root, rest, found, rfl, rfl, hRoot⟩
      | ok l =>
          rw [sourcesFrom, hRoot] at h
          obtain ⟨front, failing, back, files, rfl, hFront, hFailing⟩ := ih h
          refine ⟨root :: front, failing, back, files, rfl, ?_, hFailing⟩
          exact bind_eq_ok_iff.2 ⟨l, hRoot, hFront⟩

/-! ## The search with a limit -/

/-- The search gives what collecting the files one after another gives. -/
theorem sourcesFrom_eq_collect {limit : Option Int}
    (hFound : ∀ most ∈ limit, found.length < allowed most) :
    tree.sourcesFrom limit found roots = tree.collect limit found roots := by
  induction roots generalizing found with
  | nil => cases limit <;> rfl
  | cons root rest ih =>
      cases hRoot : tree.sortedSources root with
      | error e =>
          rw [sourcesFrom, collect, hRoot]
          rfl
      | ok l =>
          have hCollect : tree.collect limit found (root :: rest) =
              if (collectNew limit found l).2 then .ok (collectNew limit found l).1
              else tree.collect limit (collectNew limit found l).1 rest := by
            rw [collect, hRoot]
            rfl
          rw [hCollect]
          cases limit with
          | none =>
              rw [collectNew_none, sourcesFrom, hRoot]
              exact ih (by simp)
          | some most =>
              have hHere := hFound most rfl
              rw [sourcesFrom_some_cons hHere hRoot, collectNew_some hHere]
              by_cases hFew : (found ++ newPaths found l).length < allowed most
              · rw [if_pos hFew, if_pos hFew]
                exact ih (by simpa using hFew)
              · rw [if_neg hFew, if_neg hFew]
                rfl

/-- With a limit the search gives the first files of those that it finds without one, from the
roots that it comes to. -/
theorem sources_of_front (hRoots : roots = front ++ back)
    (h : tree.sources front none = .ok files)
    (hEnd : back = [] ∨ allowed most ≤ files.length) :
    tree.sources roots (some most) = .ok (files.take (allowed most)) := by
  have hNothing : ([] : List Path).length < allowed most := one_le_allowed most
  rw [sources, hRoots, sourcesFrom_append hNothing h]
  by_cases hFew : files.length < allowed most
  · obtain rfl : back = [] := hEnd.resolve_right (Nat.not_le.2 hFew)
    rw [if_pos hFew, List.take_of_length_le (Nat.le_of_lt hFew)]
    rfl
  · rw [if_neg hFew]

/-- With a limit the search fails exactly if it comes to a root that has a file without resolved
path. -/
theorem sources_some_eq_error_iff {e : LinkLoop} :
    tree.sources roots (some most) = .error e ↔
      ∃ front root back files, roots = front ++ root :: back ∧
        tree.sources front none = .ok files ∧ files.length < allowed most ∧
        tree.sortedSources root = .error e := by
  have hNothing : ([] : List Path).length < allowed most := one_le_allowed most
  have hFailing (root : Path) (back files : List Path) (e' : LinkLoop)
      (hRoot : tree.sortedSources root = .error e') :
      tree.sourcesFrom (some most) files (root :: back) = .error e' := by
    rw [sourcesFrom, hRoot]
    rfl
  constructor
  · intro h
    cases hAll : tree.sources roots none with
    | ok files =>
        have hOk : tree.sources roots (some most) = .ok (files.take (allowed most)) :=
          sources_of_front (List.append_nil roots).symm hAll (.inl rfl)
        cases h.symm.trans hOk
    | error e' =>
        obtain ⟨front, root, back, files, rfl, hFront, hRoot⟩ :=
          exists_of_sourcesFrom_none_eq_error hAll
        rw [sources, sourcesFrom_append hNothing hFront, hFailing root back files e' hRoot] at h
        by_cases hFew : files.length < allowed most
        · rw [if_pos hFew] at h
          obtain rfl := Except.error.inj h
          exact ⟨front, root, back, files, rfl, hFront, hFew, hRoot⟩
        · rw [if_neg hFew] at h
          cases h
  · rintro ⟨front, root, back, files, rfl, hFront, hFew, hRoot⟩
    rw [sources, sourcesFrom_append hNothing hFront, if_pos hFew, hFailing root back files e hRoot]

/-- The first files up to a limit are those up to what it allows, unless the limit is below one
and there is a file. -/
theorem take_allowed_eq_iff (files : List Path) (most : Int) :
    files.take (allowed most) = files.take most.toNat ↔ 1 ≤ most ∨ files = [] := by
  by_cases hOne : 1 ≤ most
  · have hSame : allowed most = most.toNat := by
      rw [allowed]
      omega
    simp [hSame, hOne]
  · have hLess : allowed most = 1 ∧ most.toNat = 0 := by
      rw [allowed]
      omega
    rw [hLess.1, hLess.2]
    cases files with
    | nil => simp
    | cons p rest => simp [hOne]

/-- The search for source files with a limit.

* If the search without a limit succeeds, the limited one gives the first files of it, as many
  as the limit but at least one.  These are exactly the first files up to the limit, unless the
  limit is below one and there is a file.
* It also gives the first files if the roots up to some place suffice for the limit, whatever
  stands behind them.
* It fails exactly if it comes, before there are enough files, to a root that has a file without
  resolved path.
* It is the search that looks at the limit after each file. -/
theorem sources_limit_account (tree : FileNode) (roots : List Path) (most : Int) :
    (∀ files, tree.sources roots none = .ok files →
      tree.sources roots (some most) = .ok (files.take (max 1 most.toNat)) ∧
        (tree.sources roots (some most) = .ok (files.take most.toNat) ↔
          1 ≤ most ∨ files = [])) ∧
    (∀ front back files, roots = front ++ back → tree.sources front none = .ok files →
      max 1 most.toNat ≤ files.length →
        tree.sources roots (some most) = .ok (files.take (max 1 most.toNat))) ∧
    (∀ e, tree.sources roots (some most) = .error e ↔
      ∃ front root back files, roots = front ++ root :: back ∧
        tree.sources front none = .ok files ∧ files.length < max 1 most.toNat ∧
        tree.sortedSources root = .error e) ∧
    tree.sources roots (some most) = tree.collect (some most) [] roots := by
  refine ⟨fun files h => ?_, ?_, fun e => sources_some_eq_error_iff, ?_⟩
  · have hLimited : tree.sources roots (some most) = .ok (files.take (allowed most)) :=
      sources_of_front (List.append_nil roots).symm h (.inl rfl)
    refine ⟨hLimited, ?_⟩
    rw [hLimited, Except.ok.injEq]
    exact take_allowed_eq_iff files most
  · intro front back files hRoots hFront hEnough
    exact sources_of_front hRoots hFront (.inr hEnough)
  · refine sourcesFrom_eq_collect fun limit hLimit => ?_
    exact one_le_allowed limit

/-- Of the two files below two roots a limit of one leaves the first. -/
theorem sources_limitOne :
    (sourceTree shopSources).sources [.absolute ["src"], .absolute ["src", "build"]] none =
        .ok [.absolute ["src", "A.java"], .absolute ["src", "build", "B.java"]] ∧
      (sourceTree shopSources).sources [.absolute ["src"], .absolute ["src", "build"]] (some 1) =
        .ok [.absolute ["src", "A.java"]] := by
  have hAll : (sourceTree shopSources).sources [.absolute ["src"], .absolute ["src", "build"]]
      none = .ok [.absolute ["src", "A.java"], .absolute ["src", "build", "B.java"]] :=
    toOption_eq_some_iff.1 (by decide +kernel)
  obtain ⟨hFirst, -⟩ := sources_limit_account (sourceTree shopSources)
    [.absolute ["src"], .absolute ["src", "build"]] 1
  exact ⟨hAll, (hFirst _ hAll).1⟩

/-- A file is found although the limit allows none. -/
theorem sources_limitZero :
    (sourceTree shopSources).sources [.absolute ["src"]] (some 0) =
        .ok [.absolute ["src", "A.java"]] ∧
      (sourceTree shopSources).sources [.absolute ["src"]] (some 0) ≠ .ok [] := by
  have hFound : (sourceTree shopSources).sources [.absolute ["src"]] (some 0) =
      .ok [.absolute ["src", "A.java"]] :=
    toOption_eq_some_iff.1 (by decide +kernel)
  refine ⟨hFound, ?_⟩
  rw [hFound]
  intro h
  cases h

end SpringAudit.FileNode

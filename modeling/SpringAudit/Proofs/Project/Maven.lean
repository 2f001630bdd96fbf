import Mathlib.Data.List.Nodup
import SpringAudit.Project.Maven
import SpringAudit.Proofs.FileTree.Resolve
import SpringAudit.Proofs.Xml.Encoding

/-!
# The search for Maven modules

The search goes down from level to level with a bound on the levels, and what it has
visited is handed from one module to the next.  `Traverses` is the same search without
levels, along a list of places that are still to be visited; as a directory that is entered
puts its modules in front of that list, directories come depth first and before what is
below them.  The bound is never used up, since each level stands in a directory of its
own, so every search ends (`goes_visit`).

`sourceRoots_account` puts it together.  The search succeeds exactly if every place that is
named from the start on is a directory with a descriptor that can be read, and it has one
source root for each such directory then.  Otherwise it is a failure of the project, with
one exception: a descriptor in an unknown encoding ends the run
(`sourceRoots_unknownEncodingProject` has such a descriptor).

What a descriptor says is taken from the XML reader as it is.
-/

namespace SpringAudit.Maven

open FileNode

/-! ## Modules and the way between them -/

/-- A directory has a well-formed descriptor, and this is what it says. -/
def HoldsPom (tree : FileNode) (directory : Path) (pom : Pom) : Prop :=
  ∃ octets root, tree.read (directory.join descriptorName) = .ok octets ∧
    Xml.Element.ofOctets octets = .ok root ∧ pom = .ofElement root

/-- A directory has a descriptor in an encoding that is not known. -/
def HoldsUnknownEncoding (tree : FileNode) (directory : Path) : Prop :=
  ∃ octets, tree.read (directory.join descriptorName) = .ok octets ∧
    Xml.Element.ofOctets octets = .error .unknownEncoding

/-- The places where modules have to be: the start, and those that the descriptor of such a
place names. -/
inductive Named (tree : FileNode) (start : Path) : Path → Prop where
  | start : Named tree start start
  | module {place directory : Path} {pom : Pom} {name : Text} (hPlace : Named tree start place)
      (hDirectory : tree.resolve place = .ok directory) (hPom : HoldsPom tree directory pom)
      (hName : name ∈ pom.modules) : Named tree start (directory.join name)

/-- A place leads to a directory with a well-formed descriptor. -/
def IsModule (tree : FileNode) (place : Path) : Prop :=
  tree.isDirectoryAt place = true ∧
    ∃ directory pom, tree.resolve place = .ok directory ∧ HoldsPom tree directory pom

/-- A module that was visited. -/
structure Module where
  /-- The resolved directory. -/
  directory : Path
  pom : Pom

/-- The place of the sources of a module. -/
def Module.sourceRoot (m : Module) : Path :=
  m.directory.join m.pom.sourceDirectory

/-- The places that a module names. -/
def Module.children (m : Module) : List Path :=
  m.pom.modules.map m.directory.join

/-- What a search comes upon at a place, given the directories that were visited before: a module,
nothing new, or the reason why the search ends. -/
def encounter (tree : FileNode) (seen : List Path) (place : Path) :
    Except LoadError (Option Module) :=
  if tree.isDirectoryAt place then do
    let directory ← orLoadError (tree.resolve place)
    if directory ∈ seen then return none
    else return some ⟨directory, ← pomOf tree directory⟩
  else .error (.failure (.noModuleDirectory place))

/-- The search along places: the modules in the order of the visits, or why the search ends. -/
inductive Traverses (tree : FileNode) :
    List Path → List Path → Except LoadError (List Module) → Prop where
  | done (seen : List Path) : Traverses tree seen [] (.ok [])
  | ends {seen rest : List Path} {place : Path} {e : LoadError}
      (hPlace : encounter tree seen place = .error e) :
      Traverses tree seen (place :: rest) (.error e)
  | again {seen rest : List Path} {place : Path} {outcome : Except LoadError (List Module)}
      (hPlace : encounter tree seen place = .ok none)
      (hRest : Traverses tree seen rest outcome) : Traverses tree seen (place :: rest) outcome
  | enter {seen rest : List Path} {place : Path} {m : Module}
      {outcome : Except LoadError (List Module)}
      (hPlace : encounter tree seen place = .ok (some m))
      (hRest : Traverses tree (m.directory :: seen) (m.children ++ rest) outcome) :
      Traverses tree seen (place :: rest) (outcome.map (m :: ·))

variable {tree : FileNode} {start place directory : Path} {seen pending rest : List Path}
  {outcome : Except LoadError (List Module)} {found : List Module} {m : Module} {e : LoadError}

/-! ## Descriptors -/

theorem pomOf_eq_ok_iff {pom : Pom} :
    pomOf tree directory = .ok pom ↔ HoldsPom tree directory pom := by
  unfold pomOf HoldsPom
  simp only
  cases tree.read (directory.join descriptorName) with
  | error e => simp
  | ok octets =>
      simp only [Except.ok.injEq, exists_and_left, exists_eq_left']
      cases Xml.Element.ofOctets octets with
      | error e => cases e <;> simp
      | ok root => simp [eq_comm]

/-- A descriptor that cannot be read is a failure of the project, unless its encoding is not
known. -/
theorem pomOf_error_cases (h : pomOf tree directory = .error e) :
    (∃ reason, e = .failure reason) ∨
      HoldsUnknownEncoding tree directory ∧
        e = .fault (.unknownEncoding (directory.join descriptorName)) := by
  unfold pomOf at h
  simp only at h
  cases hRead : tree.read (directory.join descriptorName) with
  | error access =>
      rw [hRead] at h
      exact .inl ⟨_, (Except.error.inj h).symm⟩
  | ok octets =>
      rw [hRead] at h
      simp only at h
      cases hRoot : Xml.Element.ofOctets octets with
      | ok root =>
          rw [hRoot] at h
          cases h
      | error problem =>
          rw [hRoot] at h
          cases problem with
          | malformed error => exact .inl ⟨_, (Except.error.inj h).symm⟩
          | unknownEncoding => exact .inr ⟨⟨octets, hRead, hRoot⟩, (Except.error.inj h).symm⟩

theorem HoldsPom.unique {pom other : Pom} (h : HoldsPom tree directory pom)
    (hOther : HoldsPom tree directory other) : pom = other :=
  Except.ok.inj ((pomOf_eq_ok_iff.2 h).symm.trans (pomOf_eq_ok_iff.2 hOther))

/-! ## One place -/

/-- A place that leads nowhere ends the search. -/
theorem encounter_of_missing (h : tree.isDirectoryAt place = false) :
    encounter tree seen place = .error (.failure (.noModuleDirectory place)) := by
  rw [encounter, h, if_neg (by simp)]

/-- A place that leads to a directory is settled by its resolved path and, if this is new, by the
descriptor there. -/
theorem encounter_of_resolve (h : tree.isDirectoryAt place = true)
    (hDirectory : tree.resolve place = .ok directory) :
    encounter tree seen place =
      if directory ∈ seen then .ok none
      else (pomOf tree directory).map fun pom => some ⟨directory, pom⟩ := by
  rw [encounter, if_pos h, hDirectory]
  by_cases hSeen : directory ∈ seen
  · simp [orLoadError, orLoopFault, Except.mapError, bind, Except.bind, hSeen, pure, Except.pure]
  · cases hPom : pomOf tree directory <;>
      simp [orLoadError, orLoopFault, Except.mapError, bind, Except.bind, hSeen, pure, Except.pure,
        hPom, Except.map]

/-- A path to a directory can be resolved. -/
theorem exists_resolve (h : tree.isDirectoryAt place = true) :
    ∃ directory, tree.resolve place = .ok directory := by
  obtain ⟨names, hLocates⟩ := exists_locatesDirectory h
  exact ⟨_, hLocates.resolve_eq⟩

/-- What is known of a place where a new module is found. -/
theorem encounter_new (h : encounter tree seen place = .ok (some m)) :
    tree.isDirectoryAt place = true ∧ tree.resolve place = .ok m.directory ∧
      m.directory ∉ seen ∧ HoldsPom tree m.directory m.pom := by
  cases hPlace : tree.isDirectoryAt place with
  | false => cases (encounter_of_missing hPlace).symm.trans h
  | true =>
      obtain ⟨directory, hDirectory⟩ := exists_resolve hPlace
      rw [encounter_of_resolve hPlace hDirectory] at h
      split at h
      · cases h
      · next hNew =>
        cases hPom : pomOf tree directory with
        | error e => simp [hPom, Except.map] at h
        | ok pom =>
            rw [hPom] at h
            obtain rfl := Option.some.inj (Except.ok.inj h)
            exact ⟨rfl, hDirectory, hNew, pomOf_eq_ok_iff.1 hPom⟩

/-- What is known of a place where there is nothing new. -/
theorem encounter_visited (h : encounter tree seen place = .ok none) :
    tree.isDirectoryAt place = true ∧
      ∃ directory, tree.resolve place = .ok directory ∧ directory ∈ seen := by
  cases hPlace : tree.isDirectoryAt place with
  | false => cases (encounter_of_missing hPlace).symm.trans h
  | true =>
      obtain ⟨directory, hDirectory⟩ := exists_resolve hPlace
      rw [encounter_of_resolve hPlace hDirectory] at h
      split at h
      · next hSeen => exact ⟨rfl, directory, hDirectory, hSeen⟩
      · cases hPom : pomOf tree directory <;> simp [hPom, Except.map] at h

/-- What is known of a place where the search ends. -/
theorem encounter_error (h : encounter tree seen place = .error e) :
    tree.isDirectoryAt place = false ∧ e = .failure (.noModuleDirectory place) ∨
      ∃ directory, tree.resolve place = .ok directory ∧ pomOf tree directory = .error e := by
  cases hPlace : tree.isDirectoryAt place with
  | false =>
      exact .inl ⟨rfl, Except.error.inj (h.symm.trans (encounter_of_missing hPlace))⟩
  | true =>
      obtain ⟨directory, hDirectory⟩ := exists_resolve hPlace
      rw [encounter_of_resolve hPlace hDirectory] at h
      split at h
      · cases h
      · refine .inr ⟨directory, hDirectory, ?_⟩
        cases hPom : pomOf tree directory with
        | ok pom => simp [hPom, Except.map] at h
        | error e' =>
            rw [hPom] at h
            exact congrArg Except.error (Except.error.inj h)

/-! ## What a search finds -/

namespace Traverses

/-- A search has one outcome only. -/
theorem unique {other : Except LoadError (List Module)} (h : Traverses tree seen pending outcome)
    (hOther : Traverses tree seen pending other) : other = outcome := by
  induction h generalizing other with
  | done =>
      cases hOther
      rfl
  | ends hPlace =>
      cases hOther with
      | ends hPlace' => rw [Except.error.inj (hPlace.symm.trans hPlace')]
      | again hPlace' => cases hPlace.symm.trans hPlace'
      | enter hPlace' => cases hPlace.symm.trans hPlace'
  | again hPlace _ ih =>
      cases hOther with
      | ends hPlace' => cases hPlace.symm.trans hPlace'
      | again _ hRest => exact ih hRest
      | enter hPlace' => cases hPlace.symm.trans hPlace'
  | enter hPlace _ ih =>
      cases hOther with
      | ends hPlace' => cases hPlace.symm.trans hPlace'
      | again hPlace' => cases hPlace.symm.trans hPlace'
      | enter hPlace' hRest =>
          obtain rfl := Option.some.inj (Except.ok.inj (hPlace.symm.trans hPlace'))
          rw [ih hRest]

/-- A module that is entered stands before those that are found behind it. -/
theorem exists_of_map_eq_ok (h : outcome.map (m :: ·) = .ok found) :
    ∃ behind, outcome = .ok behind ∧ found = m :: behind := by
  cases outcome with
  | error e => cases h
  | ok behind => exact ⟨behind, rfl, (Except.ok.inj h).symm⟩

/-- No directory is found twice, and none that was visited before. -/
theorem nodup (h : Traverses tree seen pending outcome) (hFound : outcome = .ok found) :
    (found.map Module.directory).Nodup ∧ ∀ m ∈ found, m.directory ∉ seen := by
  induction h generalizing found with
  | done =>
      obtain rfl := Except.ok.inj hFound
      simp
  | ends => cases hFound
  | again _ _ ih => exact ih hFound
  | @enter seen rest place m outcome hPlace _ ih =>
      obtain ⟨behind, rfl, rfl⟩ := exists_of_map_eq_ok hFound
      obtain ⟨hDistinct, hNotSeen⟩ := ih rfl
      obtain ⟨-, -, hNew, -⟩ := encounter_new hPlace
      constructor
      -- The search behind a module starts with its directory as visited.
      · rw [List.map_cons, List.nodup_cons, List.mem_map]
        refine ⟨?_, hDistinct⟩
        rintro ⟨other, hMem, hSame⟩
        exact hNotSeen other hMem (hSame ▸ List.mem_cons_self)
      · intro other hMem
        rcases List.mem_cons.1 hMem with rfl | hMem
        · exact hNew
        · exact fun hSeen => hNotSeen other hMem (List.mem_cons_of_mem _ hSeen)

/-- If all places are named, so are those that a module puts in front of the others. -/
theorem named_pending (hPlace : encounter tree seen place = .ok (some m))
    (hNamed : ∀ p ∈ place :: rest, Named tree start p) :
    ∀ p ∈ m.children ++ rest, Named tree start p := by
  obtain ⟨-, hDirectory, -, hPom⟩ := encounter_new hPlace
  intro p hMem
  rcases List.mem_append.1 hMem with hChild | hRest
  · obtain ⟨name, hName, rfl⟩ := List.mem_map.1 hChild
    exact .module (hNamed place List.mem_cons_self) hDirectory hPom hName
  · exact hNamed p (List.mem_cons_of_mem _ hRest)

/-- Every module that is found has its directory at a place that is named. -/
theorem sound (h : Traverses tree seen pending outcome) (hFound : outcome = .ok found)
    (hNamed : ∀ p ∈ pending, Named tree start p) :
    ∀ m ∈ found, (∃ place, Named tree start place ∧ tree.resolve place = .ok m.directory) ∧
      HoldsPom tree m.directory m.pom := by
  induction h generalizing found with
  | done =>
      obtain rfl := Except.ok.inj hFound
      simp
  | ends => cases hFound
  | again _ _ ih => exact ih hFound fun p hMem => hNamed p (List.mem_cons_of_mem _ hMem)
  | @enter seen rest place m outcome hPlace _ ih =>
      obtain ⟨behind, rfl, rfl⟩ := exists_of_map_eq_ok hFound
      obtain ⟨-, hDirectory, -, hPom⟩ := encounter_new hPlace
      intro other hMem
      rcases List.mem_cons.1 hMem with rfl | hMem
      · exact ⟨⟨place, hNamed place List.mem_cons_self, hDirectory⟩, hPom⟩
      · exact ih rfl (named_pending hPlace hNamed) other hMem

/-- A place that leads to a directory which was visited or found. -/
def Covered (tree : FileNode) (seen : List Path) (found : List Module) (place : Path) : Prop :=
  tree.isDirectoryAt place = true ∧ ∃ directory, tree.resolve place = .ok directory ∧
    (directory ∈ seen ∨ ∃ m ∈ found, m.directory = directory)

theorem Covered.cons (h : Covered tree (m.directory :: seen) found place) :
    Covered tree seen (m :: found) place := by
  obtain ⟨hPlace, directory, hDirectory, hKnown⟩ := h
  refine ⟨hPlace, directory, hDirectory, ?_⟩
  rcases hKnown with hSeen | ⟨other, hMem, hSame⟩
  · rcases List.mem_cons.1 hSeen with rfl | hSeen
    · exact .inr ⟨m, List.mem_cons_self, rfl⟩
    · exact .inl hSeen
  · exact .inr ⟨other, List.mem_cons_of_mem _ hMem, hSame⟩

/-- A search leaves no place out, nor any that the modules found name. -/
theorem complete (h : Traverses tree seen pending outcome) (hFound : outcome = .ok found) :
    (∀ p ∈ pending, Covered tree seen found p) ∧
      ∀ m ∈ found, ∀ p ∈ m.children, Covered tree seen found p := by
  induction h generalizing found with
  | done =>
      obtain rfl := Except.ok.inj hFound
      simp
  | ends => cases hFound
  | @again seen rest place outcome hPlace _ ih =>
      obtain ⟨hRest, hChildren⟩ := ih hFound
      obtain ⟨hHere, directory, hDirectory, hSeen⟩ := encounter_visited hPlace
      refine ⟨fun p hMem => ?_, hChildren⟩
      rcases List.mem_cons.1 hMem with rfl | hMem
      · exact ⟨hHere, directory, hDirectory, .inl hSeen⟩
      · exact hRest p hMem
  | @enter seen rest place m outcome hPlace _ ih =>
      obtain ⟨behind, rfl, rfl⟩ := exists_of_map_eq_ok hFound
      obtain ⟨hPending, hChildren⟩ := ih rfl
      obtain ⟨hHere, hDirectory, -⟩ := encounter_new hPlace
      constructor
      · intro p hMem
        rcases List.mem_cons.1 hMem with rfl | hMem
        · exact ⟨hHere, m.directory, hDirectory, .inr ⟨m, List.mem_cons_self, rfl⟩⟩
        · exact (hPending p (List.mem_append_right _ hMem)).cons
      · intro other hMem p hChild
        rcases List.mem_cons.1 hMem with rfl | hMem
        · exact (hPending p (List.mem_append_left _ hChild)).cons
        · exact (hChildren other hMem p hChild).cons

/-- A search ends early only because of a place that is named and no module. -/
theorem justified (h : Traverses tree seen pending outcome) (hError : outcome = .error e)
    (hNamed : ∀ p ∈ pending, Named tree start p) :
    ∃ place, Named tree start place ∧
      (tree.isDirectoryAt place = false ∧ e = .failure (.noModuleDirectory place) ∨
        ∃ directory, tree.resolve place = .ok directory ∧ pomOf tree directory = .error e) := by
  induction h with
  | done => cases hError
  | @ends seen rest place e' hPlace =>
      obtain rfl := Except.error.inj hError
      exact ⟨place, hNamed place List.mem_cons_self, encounter_error hPlace⟩
  | again _ _ ih => exact ih hError fun p hMem => hNamed p (List.mem_cons_of_mem _ hMem)
  | @enter seen rest place m outcome hPlace _ ih =>
      cases outcome with
      | ok behind => cases hError
      | error e' => exact ih hError (named_pending hPlace hNamed)

end Traverses

/-! ## The search from level to level -/

/-- What is visited are different directories, told by their places. -/
structure Search.Valid (tree : FileNode) (search : Search) : Prop where
  distinct : search.visited.Nodup
  directories : ∀ p ∈ search.visited, ∃ place entries,
    p = .absolute place ∧ tree.node? place = some (.directory entries)

/-- So they are no more than there are directories. -/
theorem Search.Valid.length_le {search : Search} (h : search.Valid tree) :
    search.visited.length ≤ tree.directoryCount := by
  have hNames : (search.visited.map Path.names).Nodup := by
    refine List.Nodup.map_on (fun p hp q hq hSame => ?_) h.distinct
    obtain ⟨place, -, rfl, -⟩ := h.directories p hp
    obtain ⟨place', -, rfl, -⟩ := h.directories q hq
    exact congrArg Path.absolute hSame
  rw [← List.length_map Path.names]
  refine length_le_directoryCount hNames fun names hMem => ?_
  obtain ⟨p, hp, rfl⟩ := List.mem_map.1 hMem
  obtain ⟨place, entries, rfl, hNode⟩ := h.directories p hp
  exact ⟨entries, hNode⟩

/-- Entering a new directory keeps them different. -/
theorem Search.Valid.enter {search : Search} (h : search.Valid tree)
    (hPlace : tree.isDirectoryAt place = true) (hDirectory : tree.resolve place = .ok directory)
    (hNew : directory ∉ search.visited) (roots : List Path) :
    Search.Valid tree ⟨directory :: search.visited, roots⟩ := by
  obtain ⟨names, hLocates⟩ := exists_locatesDirectory hPlace
  obtain ⟨entries, hNode⟩ := hLocates.directory
  obtain rfl := Except.ok.inj (hDirectory.symm.trans hLocates.resolve_eq)
  refine ⟨List.nodup_cons.2 ⟨hNew, h.distinct⟩, fun p hMem => ?_⟩
  rcases List.mem_cons.1 hMem with rfl | hMem
  · exact ⟨names, entries, rfl, hNode⟩
  · exact h.directories p hMem

/-- How a search that has come some way goes on along places: the modules it finds are added to
what it knows, and it can go on to any further places, or it ends. -/
inductive Search.Goes (tree : FileNode) (search : Search) (pending : List Path) :
    Except LoadError Search → Prop where
  | on {after : Search} (found : List Module) (hValid : after.Valid tree)
      (hVisited : after.visited = (found.map Module.directory).reverse ++ search.visited)
      (hRoots : after.roots = search.roots ++ found.map Module.sourceRoot)
      (hGoes : ∀ rest outcome, Traverses tree after.visited rest outcome →
        Traverses tree search.visited (pending ++ rest) (outcome.map (found ++ ·))) :
      Search.Goes tree search pending (.ok after)
  | ends {e : LoadError}
      (hEnds : ∀ rest, Traverses tree search.visited (pending ++ rest) (.error e)) :
      Search.Goes tree search pending (.error e)

namespace Search.Goes

variable {search between : Search} {result : Except LoadError Search}

theorem nothing (hValid : search.Valid tree)
    (hSame : ∀ rest outcome, Traverses tree search.visited rest outcome →
      Traverses tree search.visited (pending ++ rest) outcome) :
    Search.Goes tree search pending (.ok search) := by
  refine .on [] hValid rfl (by simp) fun rest outcome hRest => ?_
  cases outcome <;> exact hSame rest _ hRest

/-- After the first place the search goes on to the others. -/
theorem cons (hFirst : Search.Goes tree search [place] (.ok between))
    (hRest : Search.Goes tree between pending result) :
    Search.Goes tree search (place :: pending) result := by
  cases hFirst with
  | @on _ found _ hVisited hRoots hGoes =>
      cases hRest with
      | @on after more hValid hVisited' hRoots' hGoes' =>
          refine .on (found ++ more) hValid ?_ ?_ fun rest outcome hMore => ?_
          · rw [hVisited', hVisited, List.map_append, List.reverse_append, List.append_assoc]
          · rw [hRoots', hRoots, List.map_append, List.append_assoc]
          · have hAll := hGoes _ _ (hGoes' rest outcome hMore)
            cases outcome with
            | error e => exact hAll
            | ok behind => simpa [Except.map, List.append_assoc] using hAll
      | ends hEnds => exact .ends fun rest => hGoes _ _ (hEnds rest)

theorem stop {e : LoadError} (hFirst : Search.Goes tree search [place] (.error e)) :
    Search.Goes tree search (place :: pending) (.error e) := by
  cases hFirst with
  | ends hEnds => exact .ends fun rest => hEnds (pending ++ rest)

/-- A module is entered, and the search goes on to its children. -/
theorem enter (hPlace : encounter tree search.visited place = .ok (some m))
    (hChildren : Search.Goes tree ⟨m.directory :: search.visited, search.roots ++ [m.sourceRoot]⟩
      m.children result) : Search.Goes tree search [place] result := by
  cases hChildren with
  | @on after found hValid hVisited hRoots hGoes =>
      refine .on (m :: found) hValid ?_ ?_ fun rest outcome hMore => ?_
      · rw [hVisited, List.map_cons, List.reverse_cons, List.append_assoc]
        rfl
      · rw [hRoots, List.map_cons, List.append_assoc]
        rfl
      · have hAll := Traverses.enter hPlace (hGoes rest outcome hMore)
        cases outcome <;> exact hAll
  | ends hEnds => exact .ends fun rest => .enter hPlace (hEnds rest)

end Search.Goes

/-- What a search does with a name among the modules of a directory. -/
def visitChild (tree : FileNode) (levels : Nat) (directory : Path) (search : Search)
    (name : Text) : Except LoadError Search :=
  if tree.isDirectoryAt (directory.join name) then
    visit tree levels search (directory.join name)
  else .error (.failure (.noModuleDirectory (directory.join name)))

/-- A visit does what is to be done at its place. -/
theorem visit_eq {levels : Nat} {search : Search} (hPlace : tree.isDirectoryAt place = true) :
    visit tree (levels + 1) search place =
      match encounter tree search.visited place with
      | .error e => .error e
      | .ok none => .ok search
      | .ok (some m) => m.pom.modules.foldlM (visitChild tree levels m.directory)
          ⟨m.directory :: search.visited, search.roots ++ [m.sourceRoot]⟩ := by
  obtain ⟨directory, hDirectory⟩ := exists_resolve hPlace
  rw [encounter_of_resolve hPlace hDirectory, visit, hDirectory]
  by_cases hSeen : directory ∈ search.visited
  · simp [orLoadError, orLoopFault, Except.mapError, bind, Except.bind, hSeen, pure, Except.pure]
  · cases hPom : pomOf tree directory with
    | error e =>
        simp [orLoadError, orLoopFault, Except.mapError, bind, Except.bind, hSeen, hPom, Except.map]
    | ok pom =>
        simp only [orLoadError, orLoopFault, Except.mapError, bind, Except.bind, hSeen, hPom,
          Except.map, List.contains_eq_mem, decide_false, if_false]
        rfl

theorem goes_children {levels : Nat} {directory : Path}
    (hVisit : ∀ (search : Search) (place : Path),
      tree.isDirectoryAt place = true → search.Valid tree →
      tree.directoryCount < levels + search.visited.length →
        search.Goes tree [place] (visit tree levels search place))
    {search : Search} {names : List Text} (hValid : search.Valid tree)
    (hLevels : tree.directoryCount < levels + search.visited.length) :
    search.Goes tree (names.map directory.join)
      (names.foldlM (visitChild tree levels directory) search) := by
  induction names generalizing search with
  | nil => exact .nothing hValid fun _ _ h => h
  | cons name rest ih =>
      rw [List.map_cons, List.foldlM_cons]
      by_cases hChild : tree.isDirectoryAt (directory.join name) = true
      · have hFirst := hVisit search _ hChild hValid hLevels
        rw [visitChild, if_pos hChild]
        cases hResult : visit tree levels search (directory.join name) with
        | error e =>
            rw [hResult] at hFirst
            exact hFirst.stop
        | ok between =>
            rw [hResult] at hFirst
            refine hFirst.cons ?_
            cases hFirst with
            | on found hValid' hVisited =>
                refine ih hValid' ?_
                rw [hVisited, List.length_append]
                omega
      · rw [visitChild, if_neg hChild]
        refine .ends fun _ => .ends (encounter_of_missing ?_)
        simpa using hChild

/-- The levels suffice: a search visits as if there were no bound. -/
theorem goes_visit {levels : Nat} {search : Search} (hPlace : tree.isDirectoryAt place = true)
    (hValid : search.Valid tree) (hLevels : tree.directoryCount < levels + search.visited.length) :
    search.Goes tree [place] (visit tree levels search place) := by
  induction levels generalizing search place with
  | zero =>
      -- No level is left only if more directories were visited than there are.
      have hCount := hValid.length_le
      omega
  | succ levels ih =>
      rw [visit_eq hPlace]
      cases hEncounter : encounter tree search.visited place with
      | error e => exact .ends fun _ => .ends hEncounter
      | ok known =>
          cases known with
          | none => exact .nothing hValid fun _ _ h => .again hEncounter h
          | some m =>
              obtain ⟨-, hDirectory, hNew, -⟩ := encounter_new hEncounter
              have hEntered := hValid.enter hPlace hDirectory hNew (search.roots ++ [m.sourceRoot])
              refine .enter hEncounter (goes_children (fun _ _ h h' h'' => ih h h' h'') hEntered ?_)
              rw [List.length_cons]
              omega

/-- The source roots of a project are those of a search without a bound. -/
theorem exists_traverses (h : tree.isDirectoryAt start = true) :
    ∃ outcome, Traverses tree [] [start] outcome ∧
      sourceRoots tree start = outcome.map (·.map Module.sourceRoot) := by
  have hValid : Search.start.Valid tree := ⟨List.nodup_nil, by simp [Search.start]⟩
  have hGoes : Search.start.Goes tree [start]
      (visit tree (tree.directoryCount + 1) .start start) := goes_visit h hValid (by omega)
  rw [sourceRoots]
  cases hResult : visit tree (tree.directoryCount + 1) .start start with
  | error e =>
      rw [hResult] at hGoes
      cases hGoes with
      | ends hEnds => exact ⟨.error e, hEnds [], rfl⟩
  | ok after =>
      rw [hResult] at hGoes
      cases hGoes with
      | @on _ found _ _ hRoots hGoes =>
          refine ⟨_, hGoes [] _ (.done _), ?_⟩
          simp [Except.map, hRoots, Search.start]

/-! ## The account -/

namespace Traverses

/-- A search from the start on finds modules at places that are named. -/
theorem sound_start (h : Traverses tree [] [start] (.ok found)) :
    ∀ m ∈ found, (∃ place, Named tree start place ∧ tree.resolve place = .ok m.directory) ∧
      HoldsPom tree m.directory m.pom :=
  h.sound rfl (by simpa using Named.start)

/-- Nothing that is named from the start on is left out by a search that succeeds. -/
theorem exists_of_named (h : Traverses tree [] [start] (.ok found))
    (hNamed : Named tree start place) :
    tree.isDirectoryAt place = true ∧ ∃ m ∈ found, tree.resolve place = .ok m.directory := by
  obtain ⟨hPending, hChildren⟩ := h.complete rfl
  have hCovered : Covered tree [] found place := by
    induction hNamed with
    | start => exact hPending start List.mem_cons_self
    | @module place directory pom name _ hDirectory hPom hName ih =>
        obtain ⟨-, directory', hDirectory', hKnown⟩ := ih
        obtain rfl := Except.ok.inj (hDirectory.symm.trans hDirectory')
        rcases hKnown with hNone | ⟨m, hMem, rfl⟩
        · cases hNone
        · refine hChildren m hMem _ (List.mem_map.2 ⟨name, ?_, rfl⟩)
          rwa [(h.sound_start m hMem).2.unique hPom]
  obtain ⟨hPlace, directory, hDirectory, hKnown⟩ := hCovered
  rcases hKnown with hNone | ⟨m, hMem, rfl⟩
  · cases hNone
  · exact ⟨hPlace, m, hMem, hDirectory⟩

/-- A search that succeeds finds each directory that is named once, and nothing else. -/
theorem mem_directories_iff (h : Traverses tree [] [start] (.ok found)) :
    directory ∈ found.map Module.directory ↔
      ∃ place, Named tree start place ∧ tree.resolve place = .ok directory := by
  constructor
  · intro hMem
    obtain ⟨m, hModule, rfl⟩ := List.mem_map.1 hMem
    exact (h.sound_start m hModule).1
  · rintro ⟨place, hPlace, hDirectory⟩
    obtain ⟨-, m, hMem, hSame⟩ := h.exists_of_named hPlace
    exact List.mem_map.2 ⟨m, hMem, Except.ok.inj (hSame.symm.trans hDirectory)⟩

/-- A search succeeds exactly if all places that are named are modules. -/
theorem succeeds_iff (h : Traverses tree [] [start] outcome) :
    (∃ found, outcome = .ok found) ↔ ∀ place, Named tree start place → IsModule tree place := by
  constructor
  · rintro ⟨found, rfl⟩ place hPlace
    obtain ⟨hHere, m, hMem, hDirectory⟩ := h.exists_of_named hPlace
    exact ⟨hHere, m.directory, m.pom, hDirectory, (h.sound_start m hMem).2⟩
  · intro hModules
    cases outcome with
    | ok found => exact ⟨found, rfl⟩
    | error e =>
        obtain ⟨place, hPlace, hReason⟩ := h.justified rfl (by simpa using Named.start)
        obtain ⟨hHere, directory, pom, hDirectory, hPom⟩ := hModules place hPlace
        rcases hReason with ⟨hMissing, -⟩ | ⟨directory', hDirectory', hError⟩
        · cases hHere.symm.trans hMissing
        · obtain rfl := Except.ok.inj (hDirectory.symm.trans hDirectory')
          cases (pomOf_eq_ok_iff.2 hPom).symm.trans hError

/-- A search that does not succeed is a failure of the project, unless there is a descriptor in
an unknown encoding. -/
theorem error_cases (h : Traverses tree [] [start] (.error e)) :
    (∃ reason, e = .failure reason) ∨
      ∃ place directory, Named tree start place ∧ tree.resolve place = .ok directory ∧
        HoldsUnknownEncoding tree directory ∧
        e = .fault (.unknownEncoding (directory.join descriptorName)) := by
  obtain ⟨place, hPlace, hReason⟩ := h.justified rfl (by simpa using Named.start)
  rcases hReason with ⟨-, hMissing⟩ | ⟨directory, hDirectory, hPom⟩
  · exact .inl ⟨_, hMissing⟩
  · rcases pomOf_error_cases hPom with hFailure | ⟨hUnknown, hFault⟩
    · exact .inl hFailure
    · exact .inr ⟨place, directory, hPlace, hDirectory, hUnknown, hFault⟩

/-- A start whose own descriptor is in an unknown encoding ends the search at once. -/
theorem of_unknownEncoding (hStart : tree.isDirectoryAt start = true)
    (hDirectory : tree.resolve start = .ok directory)
    (hUnknown : HoldsUnknownEncoding tree directory) :
    Traverses tree [] [start]
      (.error (.fault (.unknownEncoding (directory.join descriptorName)))) := by
  refine .ends ?_
  obtain ⟨octets, hRead, hRoot⟩ := hUnknown
  rw [encounter_of_resolve hStart hDirectory, if_neg (by simp), pomOf]
  simp [hRead, hRoot, Except.map]

end Traverses

/-- So the run of a project with such a descriptor ends with a fault. -/
theorem sourceRoots_of_unknownEncoding (hStart : tree.isDirectoryAt start = true)
    (hDirectory : tree.resolve start = .ok directory)
    (hUnknown : HoldsUnknownEncoding tree directory) :
    sourceRoots tree start =
      .error (.fault (.unknownEncoding (directory.join descriptorName))) := by
  obtain ⟨outcome, hTraverses, hRoots⟩ := exists_traverses hStart
  rw [hRoots, (Traverses.of_unknownEncoding hStart hDirectory hUnknown).unique hTraverses]
  rfl

/-- The search for modules of a project.  It visits along places without a bound and has one
outcome.  It succeeds exactly if all places that are named from the start on are modules; it finds
the directory of each of them once then, and nothing else.  Otherwise the project fails, or a
descriptor in an unknown encoding ends the run, as the one of the start itself always does. -/
theorem sourceRoots_account (tree : FileNode) (start : Path)
    (hStart : tree.isDirectoryAt start = true) :
    (∃ outcome, Traverses tree [] [start] outcome ∧
        (∀ other, Traverses tree [] [start] other → other = outcome) ∧
        sourceRoots tree start = outcome.map (·.map Module.sourceRoot)) ∧
      ((∃ roots, sourceRoots tree start = .ok roots) ↔
        ∀ place, Named tree start place → IsModule tree place) ∧
      (∀ found, Traverses tree [] [start] (.ok found) →
        (found.map Module.directory).Nodup ∧
          (∀ directory, directory ∈ found.map Module.directory ↔
            ∃ place, Named tree start place ∧ tree.resolve place = .ok directory) ∧
          ∀ m ∈ found, HoldsPom tree m.directory m.pom) ∧
      (∀ e, sourceRoots tree start = .error e →
        (∃ reason, e = .failure reason) ∨
          ∃ place directory, Named tree start place ∧ tree.resolve place = .ok directory ∧
            HoldsUnknownEncoding tree directory ∧
            e = .fault (.unknownEncoding (directory.join descriptorName))) ∧
      ∀ directory, tree.resolve start = .ok directory → HoldsUnknownEncoding tree directory →
        sourceRoots tree start =
          .error (.fault (.unknownEncoding (directory.join descriptorName))) := by
  obtain ⟨outcome, hTraverses, hRoots⟩ := exists_traverses hStart
  refine ⟨⟨outcome, hTraverses, fun _ hOther => hTraverses.unique hOther, hRoots⟩, ?_, ?_, ?_,
    fun _ => sourceRoots_of_unknownEncoding hStart⟩
  · rw [← hTraverses.succeeds_iff, hRoots]
    cases outcome <;> simp [Except.map]
  · intro found hFound
    exact ⟨(hFound.nodup rfl).1, fun _ => hFound.mem_directories_iff,
      fun m hMem => (hFound.sound_start m hMem).2⟩
  · intro e hError
    cases outcome with
    | ok found => cases hRoots.symm.trans hError
    | error e' =>
        obtain rfl := Except.error.inj (hRoots.symm.trans hError)
        exact hTraverses.error_cases

/-- A file of ASCII characters. -/
def asciiFile (content : Text) : FileNode :=
  .file (content.map fun c => UInt8.ofNat c.toNat)

/-- A project whose only module is a link to the project itself. -/
def cyclicProject : FileNode :=
  .directory [
    ("pom.xml", asciiFile "<p><modules><module>a</module></modules></p>"),
    ("a", .link ".")]

theorem sourceRoots_cyclicProject :
    sourceRoots cyclicProject (.absolute []) =
        .ok [.absolute ["src", "main", "java"]] ∧
      (∀ place, Named cyclicProject (.absolute []) place → IsModule cyclicProject place) ∧
      ∃ found, Traverses cyclicProject [] [.absolute []] (.ok found) ∧
        (found.map Module.directory).Nodup := by
  have hRoots : (sourceRoots cyclicProject (.absolute [])).toOption =
      some [.absolute ["src", "main", "java"]] := by
    decide +kernel
  obtain ⟨⟨outcome, hTraverses, -, hOutcome⟩, hSucceeds, hFound, -⟩ :=
    sourceRoots_account cyclicProject (.absolute []) (by decide +kernel)
  cases hResult : sourceRoots cyclicProject (.absolute []) with
  | error e =>
      rw [hResult] at hRoots
      cases hRoots
  | ok roots =>
      rw [hResult] at hRoots
      refine ⟨congrArg Except.ok (Option.some.inj hRoots), hSucceeds.1 ⟨roots, hResult⟩, ?_⟩
      cases outcome with
      | error e => cases hResult.symm.trans hOutcome
      | ok found => exact ⟨found, hTraverses, (hFound found hTraverses).1⟩

/-- A descriptor that declares an encoding that is not known. -/
def unknownEncodingPom : List UInt8 :=
  ("<?xml version=\"1.0\" encoding=\"foo\"?><project/>" : Text).map fun c => UInt8.ofNat c.toNat

/-- A project with this descriptor. -/
def unknownEncodingProject : FileNode :=
  .directory [("pom.xml", .file unknownEncodingPom)]

/-- A descriptor in an unknown encoding is not a failure of the project. -/
theorem sourceRoots_unknownEncodingProject :
    HoldsUnknownEncoding unknownEncodingProject (.absolute []) ∧
      sourceRoots unknownEncodingProject (.absolute []) =
        .error (.fault (.unknownEncoding (.absolute ["pom.xml"]))) ∧
      ∀ reason, sourceRoots unknownEncodingProject (.absolute []) ≠ .error (.failure reason) := by
  have hDetect : Xml.Encoding.detect unknownEncodingPom = (.utf8, unknownEncodingPom) := by
    decide +kernel
  have hDeclared : Xml.declaredEncoding? .utf8 unknownEncodingPom =
      some (("foo" : Text), 36) := by
    decide +kernel
  have hUnknown : HoldsUnknownEncoding unknownEncodingProject (.absolute []) := by
    refine ⟨unknownEncodingPom, rfl, Xml.Element.ofOctets_eq_unknownEncoding_iff.2 ?_⟩
    rw [hDetect]
    exact ⟨_, _, hDeclared, Xml.NamedEncoding.ofName_foo⟩
  have hFault : sourceRoots unknownEncodingProject (.absolute []) =
      .error (.fault (.unknownEncoding (.absolute ["pom.xml"]))) :=
    sourceRoots_of_unknownEncoding (by decide +kernel) rfl hUnknown
  refine ⟨hUnknown, hFault, ?_⟩
  intro reason hFailure
  cases hFault.symm.trans hFailure

end SpringAudit.Maven

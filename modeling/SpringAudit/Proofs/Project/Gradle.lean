import SpringAudit.Proofs.Project.SettingsScript

/-!
# The subprojects of a Gradle project

Only what stands on the first line of the arguments of an `include` is read.  `firstLine`
tells which subprojects these are, and `sourceRoots_of_script` shows that they have a source
root each, in order.  These are all subprojects exactly if there is no line break before one
of them.

What the octets of the file spell is taken from the reader of UTF-8 as it is.
-/

namespace SpringAudit.Gradle

/-! ## The first line of the arguments -/

/-- Whether there is a line break in a text. -/
def breaksLine (t : Text) : Bool :=
  t.any fun c => decide (c = '\n')

/-- The projects that stand on the first line of their list. -/
def firstLine : List WrittenProject → List WrittenProject
  | [] => []
  | p :: rest =>
    if breaksLine p.before then []
    else if breaksLine p.after then [p]
    else p :: firstLine rest

/-- There is no line break before any of the projects. -/
def OnOneLine (projects : List WrittenProject) : Prop :=
  (∀ p ∈ projects, breaksLine p.before = false) ∧
    ∀ p ∈ projects.dropLast, breaksLine p.after = false

theorem firstLine_prefix (projects : List WrittenProject) : firstLine projects <+: projects := by
  induction projects with
  | nil => exact List.prefix_rfl
  | cons p rest ih =>
      unfold firstLine
      split
      · exact List.nil_prefix
      · split
        · exact ⟨rest, rfl⟩
        · exact List.prefix_cons_inj p |>.2 ih

/-- All projects stand on the first line exactly if there is no line break before one. -/
theorem firstLine_eq_self_iff (projects : List WrittenProject) :
    firstLine projects = projects ↔ OnOneLine projects := by
  induction projects with
  | nil => simp [firstLine, OnOneLine]
  | cons p rest ih =>
      unfold firstLine
      cases hBefore : breaksLine p.before with
      | true => simp [OnOneLine, hBefore]
      | false =>
          cases hAfter : breaksLine p.after with
          | true =>
              cases rest with
              | nil => simp [OnOneLine, hBefore]
              | cons q rest => simp [OnOneLine, hAfter]
          | false =>
              cases rest with
              | nil => simp [OnOneLine, hBefore, firstLine]
              | cons q rest =>
                  simp only [Bool.false_eq_true, if_false, List.cons.injEq, true_and, ih, OnOneLine,
                    List.dropLast_cons_cons, List.mem_cons, forall_eq_or_imp, hBefore, hAfter]

variable {c mark : CodePoint} {s t blanks : Text}

/-! ## The project paths among the arguments -/

/-- More steps than there are characters change nothing. -/
theorem quotedTextsFrom_eq_of_length_le {fuel fuel' : Nat} (h : t.length ≤ fuel)
    (h' : t.length ≤ fuel') : quotedTextsFrom fuel t = quotedTextsFrom fuel' t := by
  induction fuel generalizing fuel' t with
  | zero =>
      obtain rfl : t = [] := List.eq_nil_of_length_eq_zero (by omega)
      cases fuel' <;> rfl
  | succ fuel ih =>
      cases t with
      | nil => cases fuel' <;> rfl
      | cons c rest =>
          cases fuel' with
          | zero => simp at h'
          | succ fuel' =>
              rw [List.length_cons] at h h'
              have hRest : quotedTextsFrom fuel rest = quotedTextsFrom fuel' rest :=
                ih (by omega) (by omega)
              simp only [quotedTextsFrom, hRest]
              split
              · split
                · rfl
                · next d following hDrop =>
                  have hLength := congrArg List.length hDrop
                  rw [List.length_drop, List.length_cons] at hLength
                  have hFollowing : quotedTextsFrom fuel following =
                      quotedTextsFrom fuel' following := ih (by omega) (by omega)
                  rw [hFollowing]
              · rfl

theorem quotedTexts_plain_append (h : ∀ c ∈ s, isQuotationMark c = false) :
    quotedTexts (s ++ t) = quotedTexts t := by
  induction s with
  | nil => rfl
  | cons c s ih =>
      rw [List.forall_mem_cons] at h
      rw [List.cons_append, quotedTexts, List.length_cons, quotedTextsFrom, if_neg (by simp [h.1])]
      exact ih h.2

theorem quotedTexts_of_plain (h : ∀ c ∈ t, isQuotationMark c = false) : quotedTexts t = [] := by
  have hNone := quotedTexts_plain_append (t := []) h
  rwa [List.append_nil] at hNone

theorem quotedTexts_quoted {inner : Text} (hMark : isQuotationMark mark = true)
    (hInner : ∀ c ∈ inner, isQuotationMark c = false) (hSome : inner ≠ []) :
    quotedTexts (mark :: (inner ++ mark :: t)) = inner :: quotedTexts t := by
  have hTake : (inner ++ mark :: t).takeWhile (fun d => !isQuotationMark d) = inner := by
    rw [List.takeWhile_append_of_pos fun c hMem => by simp [hInner c hMem],
      List.takeWhile_cons_of_neg (by simp [hMark]), List.append_nil]
  rw [quotedTexts, List.length_cons, quotedTextsFrom, if_pos hMark]
  simp only [hTake, List.drop_left, List.isEmpty_eq_false_iff.2 hSome, Bool.false_eq_true, if_false]
  rw [quotedTextsFrom_eq_of_length_le (t := t) (by simp; omega) (Nat.le_refl _),
    quotedTexts]

/-- What ends the arguments hides all that follows. -/
theorem takeWhile_append_cons (hEnd : isArgument c = false) :
    (s ++ c :: t).takeWhile isArgument = s.takeWhile isArgument := by
  induction s with
  | nil => exact List.takeWhile_cons_of_neg (by simp [hEnd])
  | cons d s ih => rw [List.cons_append, List.takeWhile_cons, List.takeWhile_cons, ih]

theorem isArgument_of_isBlank (hBlank : c.isBlank = true) (hBreak : c ≠ '\n') :
    isArgument c = true := by
  have hClosing : c ≠ ')' := by
    rintro rfl
    cases hBlank
  simp [isArgument, hClosing, hBreak]

/-- No project path stands before a line break that follows blanks only. -/
theorem quotedTexts_of_breaksLine (hBlank : ∀ c ∈ blanks, c.isBlank = true)
    (hBreak : breaksLine blanks = true) :
    quotedTexts ((blanks ++ t).takeWhile isArgument) = [] := by
  obtain ⟨c, hMem, hHere⟩ := List.any_eq_true.1 hBreak
  obtain rfl := of_decide_eq_true hHere
  obtain ⟨front, back, rfl⟩ := List.append_of_mem hMem
  rw [List.append_assoc, List.cons_append, takeWhile_append_cons rfl]
  refine quotedTexts_of_plain fun d hTaken => not_isQuotationMark_of_isBlank (hBlank d ?_)
  exact List.mem_append_left _ ((List.takeWhile_prefix _).subset hTaken)

/-- Blanks on the line make no difference. -/
theorem quotedTexts_of_not_breaksLine (hBlank : ∀ c ∈ blanks, c.isBlank = true)
    (hBreak : breaksLine blanks = false) :
    quotedTexts ((blanks ++ t).takeWhile isArgument) = quotedTexts (t.takeWhile isArgument) := by
  have hBreaks : ∀ c ∈ blanks, c ≠ '\n' := by simpa [breaksLine] using hBreak
  rw [List.takeWhile_append_of_pos fun c hMem =>
    isArgument_of_isBlank (hBlank c hMem) (hBreaks c hMem)]
  exact quotedTexts_plain_append fun c hMem => not_isQuotationMark_of_isBlank (hBlank c hMem)

theorem WrittenProject.path_ne_nil (p : WrittenProject) : p.path ≠ [] := by
  have hNames : Text.join [':'] p.names ≠ [] :=
    Text.join_ne_nil p.names_ne_nil fun name hName => (p.names_valid name hName).1
  simp [path, hNames]

theorem isArgument_of_isQuotationMark (h : isQuotationMark c = true) : isArgument c = true := by
  simp only [isQuotationMark, Bool.or_eq_true, decide_eq_true_eq] at h
  rcases h with rfl | rfl <;> rfl

/-- A project path on the line is read, whatever comes after it. -/
theorem quotedTexts_project (p : WrittenProject) (hBefore : breaksLine p.before = false) :
    quotedTexts ((p.text ++ t).takeWhile isArgument) =
      p.path :: quotedTexts ((p.after ++ t).takeWhile isArgument) := by
  have hMark := isArgument_of_isQuotationMark p.mark_valid
  have hPath : ∀ c ∈ p.path, isArgument c = true := fun c hMem => by
    obtain ⟨-, hClosing, hBreak⟩ := p.path_valid hMem
    simp [isArgument, hClosing, hBreak]
  have hText : p.text ++ t = p.before ++ p.mark :: (p.path ++ p.mark :: (p.after ++ t)) := by
    simp [WrittenProject.text]
  rw [hText, quotedTexts_of_not_breaksLine p.before_blank hBefore,
    List.takeWhile_cons_of_pos hMark, List.takeWhile_append_of_pos hPath,
    List.takeWhile_cons_of_pos hMark]
  exact quotedTexts_quoted p.mark_valid (fun c hMem => (p.path_valid hMem).1) p.path_ne_nil

/-- The project paths that are read are those on the first line. -/
theorem quotedTexts_arguments {projects : List WrittenProject}
    (hEnd : ∀ c ∈ t.takeWhile isArgument, isQuotationMark c = false) :
    quotedTexts
        ((Text.join [','] (projects.map WrittenProject.text) ++ t).takeWhile isArgument) =
      (firstLine projects).map WrittenProject.path := by
  induction projects with
  | nil => exact quotedTexts_of_plain hEnd
  | cons p rest ih =>
      obtain ⟨more, hMore, hRead⟩ : ∃ more : Text,
          Text.join [','] ((p :: rest).map WrittenProject.text) ++ t = p.text ++ more ∧
            quotedTexts (more.takeWhile isArgument) =
              (firstLine rest).map WrittenProject.path := by
        cases rest with
        | nil => exact ⟨t, rfl, quotedTexts_of_plain hEnd⟩
        | cons q rest =>
            refine ⟨',' :: (Text.join [','] ((q :: rest).map WrittenProject.text) ++ t), ?_, ?_⟩
            · rw [List.map_cons, List.map_cons, Text.join_cons_cons, List.append_assoc]
              rfl
            · rw [List.takeWhile_cons_of_pos (by rfl), ← ih]
              exact quotedTexts_plain_append (s := [',']) (by decide)
      rw [hMore, firstLine]
      cases hBefore : breaksLine p.before with
      | true =>
          have hText : p.text ++ more =
              p.before ++ (p.mark :: (p.path ++ p.mark :: p.after) ++ more) := by
            simp [WrittenProject.text]
          rw [if_pos rfl, hText]
          exact quotedTexts_of_breaksLine p.before_blank hBefore
      | false =>
          rw [if_neg (by simp), quotedTexts_project p hBefore]
          cases hAfter : breaksLine p.after with
          | true =>
              rw [if_pos rfl, quotedTexts_of_breaksLine p.after_blank hAfter]
              rfl
          | false =>
              rw [if_neg (by simp), quotedTexts_of_not_breaksLine p.after_blank hAfter, hRead]
              rfl

/-! ## The directories of the subprojects -/

namespace WrittenProject

/-- The colons of a project path lead down directories. -/
theorem subprojectDirectory_path (p : WrittenProject) :
    subprojectDirectory p.path = p.directory := by
  have hNames : ∀ name ∈ p.names, name ≠ [] := fun name hName => (p.names_valid name hName).1
  have hColon : ∀ name ∈ p.names, ∀ c ∈ name, c ≠ ':' := fun name hName c hMem =>
    (isNamePart_cases ((p.names_valid name hName).2 c hMem)).2.2.1
  have hStripped : Text.stripBy (fun c => decide (c = ':')) p.path = Text.join [':'] p.names := by
    refine Text.stripBy_append ?_ ?_ ?_
    · cases p.isRooted <;> decide
    · intro c hHead
      obtain ⟨name, hName, hMem⟩ := Text.mem_of_head?_join hNames hHead
      simpa using hColon name hName c hMem
    · intro c hLast
      obtain ⟨name, hName, hMem⟩ := Text.mem_of_getLast?_join hNames hLast
      simpa using hColon name hName c hMem
  rw [subprojectDirectory, hStripped, Text.map_join hColon, directory]

theorem directory_ne_nil (p : WrittenProject) : p.directory ≠ [] :=
  Text.join_ne_nil p.names_ne_nil fun name hName => (p.names_valid name hName).1

/-- Names that are directory names are the levels between a project and the root project. -/
theorem names_join_directory (p : WrittenProject) (root : Path)
    (hNames : ∀ name ∈ p.names, name ≠ "." ∧ ∀ c ∈ name, c ≠ '/') :
    (root.join p.directory).names = root.names ++ p.names := by
  have hSome : ∀ name ∈ p.names, name ≠ [] := fun name hName => (p.names_valid name hName).1
  have hRelative : (Path.ofText p.directory).isAbsolute = false := by
    show Text.startsWith p.directory "/" = false
    cases hDirectory : p.directory with
    | nil => rfl
    | cons c rest =>
        have hHead : c ∈ (Text.join ['/'] p.names).head? := by
          rw [← directory, hDirectory]
          rfl
        obtain ⟨name, hName, hMem⟩ := Text.mem_of_head?_join hSome hHead
        exact startsWith_eq_false rfl ((hNames name hName).2 c hMem)
  have hAdded : (Path.ofText p.directory).names = p.names := by
    show (Text.splitOn '/' (Text.join ['/'] p.names)).filter _ = p.names
    rw [Text.splitOn_join p.names_ne_nil fun name hName => (hNames name hName).2,
      List.filter_eq_self]
    intro name hName
    simp [hSome name hName, (hNames name hName).1]
  rw [Path.join]
  simp only [hRelative, Bool.false_eq_true, if_false, hAdded]

end WrittenProject

/-! ## The source roots -/

namespace SettingsScript

/-- No quotation mark belongs to the arguments behind the last project. -/
theorem takeWhile_ending (s : SettingsScript) :
    ∀ c ∈ s.ending.takeWhile isArgument, isQuotationMark c = false := by
  intro c hMem
  unfold ending at hMem
  cases hParenthesized : s.statement.isParenthesized with
  | true =>
      rw [hParenthesized] at hMem
      cases hMem
  | false =>
      rw [hParenthesized] at hMem
      refine s.trailing_bare hParenthesized c ?_
      cases hAfter : s.after with
      | nil =>
          rw [hAfter] at hMem
          exact (List.takeWhile_prefix _).subset hMem
      | cons line rest =>
          rw [hAfter, Text.join_cons_cons] at hMem
          have hTaken : c ∈ (s.trailing ++ ('\n' : CodePoint) ::
              Text.join ['\n'] (line :: rest)).takeWhile isArgument := hMem
          rw [takeWhile_append_cons rfl] at hTaken
          exact (List.takeWhile_prefix _).subset hTaken

/-- A settings file names the directories of the projects on the first line. -/
theorem subprojectDirectories_text (s : SettingsScript) :
    subprojectDirectories s.text =
      (firstLine s.statement.projects).map WrittenProject.directory := by
  have hRead : quotedTexts ((s.statement.arguments ++ s.ending).takeWhile isArgument) =
      (firstLine s.statement.projects).map WrittenProject.path :=
    quotedTexts_arguments s.takeWhile_ending
  rw [subprojectDirectories, s.includes_text, List.flatMap_singleton, hRead, List.map_map,
    List.filter_eq_self.2]
  · exact List.map_congr_left fun p _ => p.subprojectDirectory_path
  · intro directory hMem
    obtain ⟨p, -, rfl⟩ := List.mem_map.1 hMem
    simp [p.subprojectDirectory_path, p.directory_ne_nil]

end SettingsScript

theorem settingsText_of_not_isFileAt {tree : FileNode} {p : Path}
    (h : tree.isFileAt p = false) : settingsText tree p = [] := by
  unfold settingsText FileNode.read
  unfold FileNode.isFileAt at h
  cases hAccess : tree.access p with
  | error e => rfl
  | ok node =>
      rw [hAccess] at h
      cases node with
      | file => cases h
      | link => rfl
      | directory => rfl

/-- The source roots of a Gradle project with one settings file, in which one `include` names
subprojects: its own source root, and one for each project that stands on the first line of the
arguments, in order.  These are the first ones, and they are all of them exactly if no line break
stands before one.  Where names are directory names, each is a level. -/
theorem sourceRoots_of_script (tree : FileNode) (root : Path) (script : SettingsScript)
    (octets : List UInt8) (hRead : tree.read (root.join "settings.gradle") = .ok octets)
    (hText : Text.normalizeLineEnds (Text.ofUtf8Lenient octets) = script.text)
    (hOnly : tree.isFileAt (root.join "settings.gradle.kts") = false) :
    sourceRoots tree root = root.join defaultSourceDirectory ::
        (firstLine script.statement.projects).map
          (fun p => (root.join p.directory).join defaultSourceDirectory) ∧
      firstLine script.statement.projects <+: script.statement.projects ∧
      (firstLine script.statement.projects = script.statement.projects ↔
        OnOneLine script.statement.projects) ∧
      ∀ p ∈ script.statement.projects,
        (∀ name ∈ p.names, name ≠ "." ∧ ∀ c ∈ name, c ≠ '/') →
          (root.join p.directory).names = root.names ++ p.names := by
  have hGroovy : settingsText tree (root.join "settings.gradle") = script.text := by
    rw [settingsText, hRead, ← hText]
  have hKotlin := settingsText_of_not_isFileAt hOnly
  refine ⟨?_, firstLine_prefix _, firstLine_eq_self_iff _, fun p _ hNames =>
    p.names_join_directory root hNames⟩
  rw [sourceRoots, settingsFiles, List.flatMap_cons, List.flatMap_singleton, hGroovy, hKotlin,
    script.subprojectDirectories_text, List.map_map]
  exact congrArg _ (List.append_nil _)

/-- A directory with a settings file of ASCII characters. -/
def SettingsScript.tree (s : SettingsScript) : FileNode :=
  .directory [("settings.gradle", .file (s.text.map fun c => UInt8.ofNat c.toNat))]

/-- A settings file that includes two projects on one line. -/
def shopScript : SettingsScript where
  before := ["rootProject.name = 'shop'", ""]
  statement := {
    indent := ""
    gap := " "
    isParenthesized := true
    first := {
      before := "", mark := '"', isRooted := true, names := ["api", "core"], after := ""
      before_blank := by decide
      mark_valid := by decide
      names_ne_nil := by decide
      names_valid := by decide
      after_blank := by decide }
    others := [{
      before := " ", mark := '\'', isRooted := false, names := ["web"], after := "\n"
      before_blank := by decide
      mark_valid := by decide
      names_ne_nil := by decide
      names_valid := by decide
      after_blank := by decide }]
    indent_blank := by decide
    gap_blank := by decide
    first_bare := by decide }
  trailing := " // modules"
  after := [""]
  lines_valid := by decide +kernel
  trailing_bare := by decide

theorem sourceRoots_shopScript :
    sourceRoots shopScript.tree (.absolute []) =
      [.absolute ["src", "main", "java"], .absolute ["api", "core", "src", "main", "java"],
        .absolute ["web", "src", "main", "java"]] := by
  obtain ⟨hRoots, -⟩ := sourceRoots_of_script shopScript.tree (.absolute []) shopScript
    (shopScript.text.map fun c => UInt8.ofNat c.toNat) (by decide +kernel) (by decide +kernel)
    (by decide +kernel)
  rw [hRoots]
  decide +kernel

/-- A settings file that includes two projects, the second on a line of its own. -/
def splitScript : SettingsScript where
  before := []
  statement := {
    indent := ""
    gap := " "
    isParenthesized := false
    first := {
      before := "", mark := '\'', isRooted := false, names := ["a"], after := ""
      before_blank := by decide
      mark_valid := by decide
      names_ne_nil := by decide
      names_valid := by decide
      after_blank := by decide }
    others := [{
      before := "\n  ", mark := '\'', isRooted := false, names := ["b"], after := ""
      before_blank := by decide
      mark_valid := by decide
      names_ne_nil := by decide
      names_valid := by decide
      after_blank := by decide }]
    indent_blank := by decide
    gap_blank := by decide
    first_bare := by decide }
  trailing := ""
  after := [""]
  lines_valid := by decide +kernel
  trailing_bare := by decide

/-- The second of two projects is missed if it stands on a line of its own. -/
theorem sourceRoots_splitScript :
    splitScript.text = "include 'a',\n  'b'\n" ∧
      splitScript.statement.projects.map WrittenProject.directory = (["a", "b"] : List Text) ∧
      sourceRoots splitScript.tree (.absolute []) =
        [.absolute ["src", "main", "java"], .absolute ["a", "src", "main", "java"]] := by
  decide +kernel

end SpringAudit.Gradle

import Mathlib.Data.List.TakeWhile
import SpringAudit.Project.Gradle
import SpringAudit.Proofs.Text.Basic

/-!
# Settings files with an `include`

A `SettingsScript` is a settings file as it is written: lines, one of which starts an
`include`, with the subprojects that this names.  Blanks may stand around each of them and
may hold line breaks, so that the statement can run over several lines.

The reader looks for an `include` at the start of each line.  A text is `Passed` if it comes
upon none, and so is all of a settings file but the start of its statement; what the
statement holds is blanks and what quotation marks, commas and parentheses start.
`includes_text` says what is left: the arguments of the statement, up to the end of a line
or a parenthesis.
-/

namespace SpringAudit.Gradle

/-! ## Settings files as they are written -/

/-- Whether the code point may stand in a name of a project path.  A line break cannot, because it
would end the line within the quotation marks. -/
def isNamePart (c : CodePoint) : Bool :=
  !isQuotationMark c && !decide (c = '(') && !decide (c = ')') && !decide (c = ':') &&
    !decide (c = '\n')

/-- A project path in quotation marks, with the blanks around it. -/
structure WrittenProject where
  before : Text
  mark : CodePoint
  /-- Whether a colon stands before the first name. -/
  isRooted : Bool
  names : List Text
  after : Text
  before_blank : ∀ c ∈ before, c.isBlank = true
  mark_valid : isQuotationMark mark = true
  names_ne_nil : names ≠ []
  names_valid : ∀ name ∈ names, name ≠ [] ∧ ∀ c ∈ name, isNamePart c = true
  after_blank : ∀ c ∈ after, c.isBlank = true

namespace WrittenProject

/-- The project path. -/
def path (p : WrittenProject) : Text :=
  (if p.isRooted then ":" else "" : Text) ++ Text.join [':'] p.names

def text (p : WrittenProject) : Text :=
  p.before ++ p.mark :: (p.path ++ p.mark :: p.after)

/-- The directory of the project below that of the root project. -/
def directory (p : WrittenProject) : Text :=
  Text.join ['/'] p.names

end WrittenProject

/-- An `include` with at least one project, in parentheses or not. -/
structure IncludeStatement where
  indent : Text
  /-- The blanks between the word and the arguments. -/
  gap : Text
  isParenthesized : Bool
  first : WrittenProject
  others : List WrittenProject
  indent_blank : ∀ c ∈ indent, c.isBlank = true
  gap_blank : ∀ c ∈ gap, c.isBlank = true
  first_bare : isParenthesized = false → first.before = []

namespace IncludeStatement

def projects (s : IncludeStatement) : List WrittenProject :=
  s.first :: s.others

def arguments (s : IncludeStatement) : Text :=
  Text.join [','] (s.projects.map WrittenProject.text)

def text (s : IncludeStatement) : Text :=
  s.indent ++ includeWord ++ s.gap ++
    if s.isParenthesized then "(" ++ s.arguments ++ ")" else s.arguments

end IncludeStatement

/-- A line starts an `include`. -/
def StartsInclude (line : Text) : Prop :=
  ∃ blanks rest : Text, line = blanks ++ includeWord ++ rest ∧ (∀ c ∈ blanks, c.isBlank = true) ∧
    rest.head?.any CodePoint.isWordPart = false

/-- A settings file with one `include` at the start of a line. -/
structure SettingsScript where
  /-- The lines before the statement. -/
  before : List Text
  statement : IncludeStatement
  /-- The rest of the line on which the statement ends. -/
  trailing : Text
  /-- The lines after that. -/
  after : List Text
  lines_valid : ∀ line ∈ before ++ trailing :: after,
    (∀ c ∈ line, c ≠ '\n') ∧ ¬ StartsInclude line
  trailing_bare : statement.isParenthesized = false → ∀ c ∈ trailing, isQuotationMark c = false

def SettingsScript.text (s : SettingsScript) : Text :=
  Text.join ['\n'] (s.before ++ (s.statement.text ++ s.trailing) :: s.after)

/-! ## Classes of code points -/

variable {c mark : CodePoint} {s t rest blanks line : Text}

theorem not_isWordPart_of_isBlank (h : c.isBlank = true) : c.isWordPart = false :=
  CodeRanges.contains_eq_false_of_areDisjoint (by decide +kernel) h

/-- Quotation marks, parentheses and commas. -/
def isPunctuation (c : CodePoint) : Bool :=
  isQuotationMark c || decide (c = '(') || decide (c = ')') || decide (c = ',')

theorem isPunctuation_cases (h : isPunctuation c = true) :
    c = '"' ∨ c = '\'' ∨ c = '(' ∨ c = ')' ∨ c = ',' := by
  simpa [isPunctuation, isQuotationMark, or_assoc] using h

theorem not_isBlank_of_isPunctuation (h : isPunctuation c = true) : c.isBlank = false := by
  rcases isPunctuation_cases h with rfl | rfl | rfl | rfl | rfl <;> decide

theorem not_isWordPart_of_isPunctuation (h : isPunctuation c = true) : c.isWordPart = false := by
  rcases isPunctuation_cases h with rfl | rfl | rfl | rfl | rfl <;> decide +kernel

theorem isPunctuation_of_isQuotationMark (h : isQuotationMark c = true) :
    isPunctuation c = true := by
  simp [isPunctuation, h]

theorem not_isPunctuation_of_isBlank (h : c.isBlank = true) : isPunctuation c = false := by
  cases hPunctuation : isPunctuation c with
  | false => rfl
  | true => cases h.symm.trans (not_isBlank_of_isPunctuation hPunctuation)

theorem not_isQuotationMark_of_isBlank (h : c.isBlank = true) : isQuotationMark c = false := by
  cases hMark : isQuotationMark c with
  | false => rfl
  | true =>
      cases (not_isPunctuation_of_isBlank h).symm.trans (isPunctuation_of_isQuotationMark hMark)

theorem isNamePart_cases (h : isNamePart c = true) :
    isQuotationMark c = false ∧ c ≠ ')' ∧ c ≠ ':' ∧ c ≠ '\n' := by
  simp only [isNamePart, Bool.and_eq_true, Bool.not_eq_true', decide_eq_false_iff_not] at h
  exact ⟨h.1.1.1.1, h.1.1.2, h.1.2, h.2⟩

/-- A project path has no quotation mark, parenthesis or line break. -/
theorem WrittenProject.path_valid (p : WrittenProject) (h : c ∈ p.path) :
    isQuotationMark c = false ∧ c ≠ ')' ∧ c ≠ '\n' := by
  have hColon : isQuotationMark ':' = false ∧ (':' : CodePoint) ≠ ')' ∧
      (':' : CodePoint) ≠ '\n' := by
    decide
  rcases List.mem_append.1 h with hRoot | hNames
  · cases hRooted : p.isRooted with
    | false =>
        rw [hRooted] at hRoot
        cases hRoot
    | true =>
        obtain rfl : c = ':' := by
          rw [hRooted] at hRoot
          exact List.mem_singleton.1 hRoot
        exact hColon
  · rcases Text.mem_join hNames with hBetween | ⟨name, hName, hMem⟩
    · obtain rfl := List.mem_singleton.1 hBetween
      exact hColon
    · obtain ⟨hMark, hClosing, -, hBreak⟩ := isNamePart_cases ((p.names_valid name hName).2 c hMem)
      exact ⟨hMark, hClosing, hBreak⟩

/-! ## Where an `include` starts -/

/-- Blanks before an `include` make no difference. -/
theorem includeAt?_blank_append (h : ∀ c ∈ blanks, c.isBlank = true) :
    includeAt? (blanks ++ t) = includeAt? t := by
  simp only [includeAt?, List.dropWhile_append_of_pos h]

theorem includeAt?_lineBreak (t : Text) : includeAt? (('\n' : CodePoint) :: t) = includeAt? t := by
  have hBreak : ∀ c ∈ ([('\n' : CodePoint)] : Text), c.isBlank = true := by decide
  exact includeAt?_blank_append hBreak

/-- Another letter than its first one starts no `include`. -/
theorem includeAt?_cons_of_ne (hBlank : c.isBlank = false) (hLetter : c ≠ 'i') :
    includeAt? (c :: t) = none := by
  have hWord : Text.startsWith (c :: t) includeWord = false := startsWith_eq_false rfl hLetter
  simp [includeAt?, hBlank, hWord]

theorem includeAt?_punctuation (h : isPunctuation c = true) : includeAt? (c :: t) = none := by
  refine includeAt?_cons_of_ne (not_isBlank_of_isPunctuation h) ?_
  rintro rfl
  cases h

/-- Whether the code point may stand in the arguments that are read. -/
def isArgument (c : CodePoint) : Bool :=
  decide (c ≠ ')') && decide (c ≠ '\n')

/-- What is left after the arguments that are read. -/
def afterArguments (body : Text) : Text :=
  let rest : Text := body.dropWhile isArgument
  if rest.startsWith ")" then rest.drop 1 else rest

/-- Where the arguments begin behind the word. -/
def argumentsFrom (t : Text) : Text :=
  let opened : Text := t.dropWhile CodePoint.isBlank
  if opened.startsWith "(" then opened.drop 1 else opened

/-- The arguments of an `include` are read up to a closing parenthesis or the end of the line. -/
theorem includeAt?_word (h : rest.head?.any CodePoint.isWordPart = false) :
    includeAt? (includeWord ++ rest) =
      some ((argumentsFrom rest).takeWhile isArgument, afterArguments (argumentsFrom rest)) := by
  have hStart : (includeWord ++ rest).dropWhile CodePoint.isBlank = includeWord ++ rest := rfl
  have hWord : Text.startsWith (includeWord ++ rest) includeWord = true :=
    List.isPrefixOf_iff_prefix.2 (List.prefix_append _ _)
  rw [includeAt?]
  simp only [hStart, hWord, List.drop_left, h]
  rfl

/-- The end of a text or of a line follows. -/
def EndsLine (rest : Text) : Prop :=
  rest = [] ∨ ∃ more : Text, rest = ('\n' : CodePoint) :: more

/-- A word without line breaks that starts a line and what follows it starts the line. -/
theorem exists_of_append_eq {word more : Text} (hRest : EndsLine rest)
    (hWord : ∀ c ∈ word, c ≠ '\n') (h : line ++ rest = word ++ more) :
    ∃ tail, line = word ++ tail ∧ more = tail ++ rest := by
  rcases List.append_eq_append_iff.1 h with ⟨middle, rfl, hMore⟩ | ⟨tail, hLine, hMore⟩
  · cases middle with
    | nil => exact ⟨[], by simp, by simpa using hMore.symm⟩
    | cons c middle =>
        rcases hRest with rfl | ⟨after, rfl⟩
        · cases hMore
        · rw [List.cons_append, List.cons.injEq] at hMore
          obtain ⟨rfl, -⟩ := hMore
          exact absurd rfl (hWord _ (by simp))
  · exact ⟨tail, hLine, hMore⟩

/-- A line that starts no `include` and is not blank is passed over. -/
theorem includeAt?_of_not_startsInclude (hLine : ¬ StartsInclude line) (hRest : EndsLine rest)
    (hBlank : ¬ ∀ c ∈ line, c.isBlank = true) : includeAt? (line ++ rest) = none := by
  have hStart : (line.dropWhile CodePoint.isBlank).isEmpty = false := by
    cases hEmpty : (line.dropWhile CodePoint.isBlank).isEmpty with
    | false => rfl
    | true => exact absurd (List.dropWhile_eq_nil_iff.1 (List.isEmpty_iff.1 hEmpty)) hBlank
  simp only [includeAt?, List.dropWhile_append, hStart, Bool.false_eq_true, if_false]
  split
  · next hFound =>
    exfalso
    rw [Bool.and_eq_true, Text.startsWith, List.isPrefixOf_iff_prefix] at hFound
    obtain ⟨⟨more, hMore⟩, hWord⟩ := hFound
    obtain ⟨tail, hTail, rfl⟩ := exists_of_append_eq hRest (by decide) hMore.symm
    -- The word cannot reach over the end of the line, so the line itself starts with it.
    refine hLine ⟨line.takeWhile CodePoint.isBlank, tail, ?_, ?_, ?_⟩
    · rw [List.append_assoc, ← hTail, List.takeWhile_append_dropWhile]
    · intro c hMem
      exact List.mem_takeWhile_imp hMem
    · rw [← hMore, List.drop_left] at hWord
      cases tail with
      | nil => rfl
      | cons c tail => simpa using hWord
  · rfl

/-- That a line starts an `include` is what the reader looks for. -/
theorem startsInclude_iff : StartsInclude line ↔ (includeAt? line).isSome = true := by
  constructor
  · rintro ⟨blanks, rest, rfl, hBlank, hWord⟩
    rw [List.append_assoc, includeAt?_blank_append hBlank, includeAt?_word hWord]
    rfl
  · intro hSome
    by_cases hLine : StartsInclude line
    · exact hLine
    · have hNone : includeAt? (line ++ []) = none := by
        by_cases hBlank : ∀ c ∈ line, c.isBlank = true
        · exact includeAt?_blank_append hBlank
        · exact includeAt?_of_not_startsInclude hLine (.inl rfl) hBlank
      rw [List.append_nil] at hNone
      simp [hNone] at hSome

instance : DecidablePred StartsInclude := fun _ => decidable_of_iff _ startsInclude_iff.symm

/-! ## Texts without an `include` -/

/-- No `include` starts behind a line break. -/
def Quiet (t : Text) : Prop :=
  ∀ front back : Text, t = front ++ ('\n' : CodePoint) :: back → includeAt? back = none

/-- No `include` starts here or behind a line break. -/
def Passed (t : Text) : Prop :=
  includeAt? t = none ∧ Quiet t

theorem Quiet.nil : Quiet [] := by
  intro front back h
  simp at h

theorem Quiet.of_append (h : Quiet (s ++ t)) : Quiet t := by
  rintro front back rfl
  exact h (s ++ front) back (by simp)

theorem Quiet.cons (hHere : c = '\n' → includeAt? t = none) (h : Quiet t) : Quiet (c :: t) := by
  intro front back hSplit
  cases front with
  | nil =>
      obtain ⟨rfl, rfl⟩ := List.cons.inj hSplit
      exact hHere rfl
  | cons d front => exact h front back (List.cons.inj hSplit).2

theorem Quiet.append (hLine : ∀ c ∈ s, c ≠ '\n') (h : Quiet t) : Quiet (s ++ t) := by
  induction s with
  | nil => exact h
  | cons c s ih =>
      rw [List.forall_mem_cons] at hLine
      exact .cons (fun hBreak => absurd hBreak hLine.1) (ih hLine.2)

namespace Passed

theorem blank_append (hBlank : ∀ c ∈ blanks, c.isBlank = true) (h : Passed t) :
    Passed (blanks ++ t) := by
  refine ⟨(includeAt?_blank_append hBlank).trans h.1, ?_⟩
  induction blanks with
  | nil => exact h.2
  | cons c blanks ih =>
      rw [List.forall_mem_cons] at hBlank
      exact .cons (fun _ => (includeAt?_blank_append hBlank.2).trans h.1) (ih hBlank.2)

theorem lineBreak (h : Passed t) : Passed (('\n' : CodePoint) :: t) :=
  ⟨(includeAt?_lineBreak t).trans h.1, .cons (fun _ => h.1) h.2⟩

theorem punctuation (hHere : isPunctuation c = true) (h : Quiet t) : Passed (c :: t) := by
  refine ⟨includeAt?_punctuation hHere, .cons ?_ h⟩
  rintro rfl
  cases hHere

/-- Another line is passed over with what follows it. -/
theorem line_append (hLine : ∀ c ∈ line, c ≠ '\n') (hOther : ¬ StartsInclude line)
    (hEnds : EndsLine rest) (h : Passed rest) : Passed (line ++ rest) := by
  by_cases hBlank : ∀ c ∈ line, c.isBlank = true
  · exact h.blank_append hBlank
  · exact ⟨includeAt?_of_not_startsInclude hOther hEnds hBlank, h.2.append hLine⟩

/-- Other lines hold no `include`. -/
theorem join_lines {lines : List Text}
    (hLines : ∀ line ∈ lines, (∀ c ∈ line, c ≠ '\n') ∧ ¬ StartsInclude line) :
    Passed (Text.join ['\n'] lines) := by
  induction lines with
  | nil => exact ⟨rfl, .nil⟩
  | cons line rest ih =>
      rw [List.forall_mem_cons] at hLines
      obtain ⟨⟨hLine, hOther⟩, hRest⟩ := hLines
      cases rest with
      | nil =>
          have h := line_append hLine hOther (.inl rfl) ⟨rfl, .nil⟩
          rwa [List.append_nil] at h
      | cons next rest =>
          rw [Text.join_cons_cons]
          exact line_append hLine hOther (.inr ⟨_, rfl⟩) (ih hRest).lineBreak

/-- A project is passed over with what follows it. -/
theorem project_append (p : WrittenProject) (h : Passed t) : Passed (p.text ++ t) := by
  have hMark := isPunctuation_of_isQuotationMark p.mark_valid
  have hClosing := Passed.punctuation hMark (h.blank_append p.after_blank).2
  have hOpening := Passed.punctuation hMark
    (hClosing.2.append fun c hMem => (p.path_valid hMem).2.2)
  have hText : p.text ++ t =
      p.before ++ p.mark :: (p.path ++ p.mark :: (p.after ++ t)) := by
    simp [WrittenProject.text]
  rw [hText]
  exact hOpening.blank_append p.before_blank

/-- The arguments of an `include` are passed over with what follows them. -/
theorem arguments_append {projects : List WrittenProject} (h : Passed t) :
    Passed (Text.join [','] (projects.map WrittenProject.text) ++ t) := by
  induction projects with
  | nil => exact h
  | cons p rest ih =>
      cases rest with
      | nil => exact h.project_append p
      | cons q rest =>
          have hRest := Passed.punctuation (c := ',') rfl ih.2
          rw [List.map_cons, List.map_cons, Text.join_cons_cons, List.append_assoc]
          exact hRest.project_append p

end Passed

/-! ## The `include` of a settings file -/

variable {arguments following body opened : Text}

theorem includesFrom_of_quiet (fuel : Nat) (isLineStart : Bool) (hQuiet : Quiet t)
    (hHere : isLineStart = true → includeAt? t = none) :
    includesFrom fuel isLineStart t = [] := by
  induction fuel generalizing t isLineStart with
  | zero => rfl
  | succ fuel ih =>
      cases t with
      | nil => rfl
      | cons c t =>
          have hNone : (if isLineStart then includeAt? (c :: t) else none) = none := by
            cases isLineStart with
            | false => rfl
            | true => exact hHere rfl
          rw [includesFrom, hNone]
          refine ih _ (hQuiet.of_append (s := [c])) fun hBreak => ?_
          exact hQuiet [] t (by rw [of_decide_eq_true hBreak]; rfl)

/-- An `include` here is the only one if none is behind it. -/
theorem includes_of_includeAt? (hHere : includeAt? t = some (arguments, following))
    (hQuiet : Quiet following) : includes t = [arguments] := by
  cases t with
  | nil => cases hHere
  | cons c t =>
      have hNone := includesFrom_of_quiet t.length false hQuiet (by simp)
      rw [includes, List.length_cons, includesFrom, if_pos rfl, hHere]
      exact congrArg (arguments :: ·) hNone

/-- The rest of a line holds no `include`. -/
theorem includesFrom_line (hLine : ∀ c ∈ line, c ≠ '\n') :
    includesFrom (line ++ ('\n' : CodePoint) :: t).length false (line ++ ('\n' : CodePoint) :: t) =
      includes t := by
  induction line with
  | nil => rfl
  | cons c line ih =>
      rw [List.forall_mem_cons] at hLine
      rw [List.cons_append, List.length_cons, includesFrom]
      simpa [hLine.1] using ih hLine.2

/-- A line that is passed over holds no `include`. -/
theorem includes_line (hLine : ∀ c ∈ line, c ≠ '\n')
    (hNone : includeAt? (line ++ ('\n' : CodePoint) :: t) = none) :
    includes (line ++ ('\n' : CodePoint) :: t) = includes t := by
  have hRest := includesFrom_line (t := t) hLine
  cases line with
  | nil =>
      rw [List.nil_append] at hNone ⊢
      rw [includes, List.length_cons, includesFrom, if_pos rfl, hNone]
      rfl
  | cons c line =>
      rw [List.cons_append] at hNone ⊢
      rw [includes, List.length_cons, includesFrom, if_pos rfl, hNone]
      rwa [List.cons_append, List.length_cons, includesFrom] at hRest

theorem includeAt?_line_cases (hOther : ¬ StartsInclude line) :
    includeAt? (line ++ ('\n' : CodePoint) :: t) = none ∨
      includeAt? (line ++ ('\n' : CodePoint) :: t) = includeAt? t := by
  by_cases hBlank : ∀ c ∈ line, c.isBlank = true
  · exact .inr ((includeAt?_blank_append hBlank).trans (includeAt?_lineBreak t))
  · exact .inl (includeAt?_of_not_startsInclude hOther (.inr ⟨_, rfl⟩) hBlank)

/-- Lines before an `include` make no difference.  If they are blank, the reader comes upon it at
the first of them already. -/
theorem includes_join_append {before tail : List Text}
    (hBefore : ∀ line ∈ before, (∀ c ∈ line, c ≠ '\n') ∧ ¬ StartsInclude line)
    (hTail : tail ≠ [])
    (hHere : includeAt? (Text.join ['\n'] tail) = some (arguments, following))
    (hQuiet : Quiet following) :
    (includeAt? (Text.join ['\n'] (before ++ tail)) = none ∨
        includeAt? (Text.join ['\n'] (before ++ tail)) = some (arguments, following)) ∧
      includes (Text.join ['\n'] (before ++ tail)) = [arguments] := by
  induction before with
  | nil => exact ⟨.inr hHere, includes_of_includeAt? hHere hQuiet⟩
  | cons line rest ih =>
      rw [List.forall_mem_cons] at hBefore
      obtain ⟨⟨hLine, hOther⟩, hRest⟩ := hBefore
      obtain ⟨hNext, hIncludes⟩ := ih hRest
      have hJoin : Text.join ['\n'] (line :: rest ++ tail) =
          line ++ ('\n' : CodePoint) :: Text.join ['\n'] (rest ++ tail) := by
        cases hMore : rest ++ tail with
        | nil => exact absurd (List.append_eq_nil_iff.1 hMore).2 hTail
        | cons next more => rw [List.cons_append, hMore, Text.join_cons_cons]
      rw [hJoin]
      rcases includeAt?_line_cases (t := Text.join ['\n'] (rest ++ tail)) hOther with hNone | hSame
      · exact ⟨.inl hNone, (includes_line hLine hNone).trans hIncludes⟩
      · rcases hNext with hNone | hSome
        · have hNone' := hSame.trans hNone
          exact ⟨.inl hNone', (includes_line hLine hNone').trans hIncludes⟩
        · have hSome' := hSame.trans hSome
          exact ⟨.inr hSome', includes_of_includeAt? hSome' hQuiet⟩

theorem Quiet.afterArguments (h : Quiet body) : Quiet (afterArguments body) := by
  have hRest : Quiet (body.dropWhile isArgument) :=
    .of_append (s := body.takeWhile isArgument) (by rwa [List.takeWhile_append_dropWhile])
  simp only [Gradle.afterArguments]
  split
  · exact .of_append (s := (body.dropWhile isArgument).take 1) (by rwa [List.take_append_drop])
  · exact hRest

/-- An argument list starts with a parenthesis or with a quotation mark, behind which or with
which the arguments begin. -/
inductive Opens : Text → Text → Prop where
  | parenthesis (body : Text) : Opens ('(' :: body) body
  | bare {mark : CodePoint} (hMark : isQuotationMark mark = true) (rest : Text) :
      Opens (mark :: rest) (mark :: rest)

theorem Opens.exists_punctuation (h : Opens opened body) :
    ∃ c rest, opened = c :: rest ∧ isPunctuation c = true := by
  cases h with
  | parenthesis => exact ⟨_, _, rfl, rfl⟩
  | bare hMark => exact ⟨_, _, rfl, isPunctuation_of_isQuotationMark hMark⟩

theorem Opens.argumentsFrom_eq {gap : Text} (h : Opens opened body)
    (hGap : ∀ c ∈ gap, c.isBlank = true) : argumentsFrom (gap ++ opened) = body := by
  obtain ⟨c, rest, hOpened, hPunctuation⟩ := h.exists_punctuation
  have hAfterGap : (gap ++ opened).dropWhile CodePoint.isBlank = opened := by
    rw [List.dropWhile_append_of_pos hGap, hOpened,
      List.dropWhile_cons_of_neg (by simp [not_isBlank_of_isPunctuation hPunctuation])]
  simp only [argumentsFrom, hAfterGap]
  cases h with
  | parenthesis => rfl
  | @bare mark hMark rest =>
      have hNe : mark ≠ '(' := by
        rintro rfl
        cases hMark
      have hNot : Text.startsWith (mark :: rest) "(" = false := startsWith_eq_false rfl hNe
      rw [hNot]
      rfl

/-- The arguments of a statement are read from where they begin. -/
theorem includeAt?_statement {indent gap : Text} (hIndent : ∀ c ∈ indent, c.isBlank = true)
    (hGap : ∀ c ∈ gap, c.isBlank = true) (hOpens : Opens opened body) :
    includeAt? (indent ++ (includeWord ++ (gap ++ opened))) =
      some (body.takeWhile isArgument, afterArguments body) := by
  have hHead : (gap ++ opened).head?.any CodePoint.isWordPart = false := by
    cases gap with
    | nil =>
        obtain ⟨c, rest, rfl, hPunctuation⟩ := hOpens.exists_punctuation
        exact not_isWordPart_of_isPunctuation hPunctuation
    | cons d gap => exact not_isWordPart_of_isBlank (hGap d List.mem_cons_self)
  rw [includeAt?_blank_append hIndent, includeAt?_word hHead, hOpens.argumentsFrom_eq hGap]

/-! ## The arguments of the statement -/

/-- What follows the arguments of the statement. -/
def SettingsScript.ending (s : SettingsScript) : Text :=
  (if s.statement.isParenthesized then ")" else "" : Text) ++
    Text.join ['\n'] (s.trailing :: s.after)

namespace SettingsScript

theorem trailing_other (s : SettingsScript) :
    ∀ line ∈ s.trailing :: s.after, (∀ c ∈ line, c ≠ '\n') ∧ ¬ StartsInclude line :=
  fun line hMem => s.lines_valid line (List.mem_append_right _ hMem)

theorem passed_ending (s : SettingsScript) : Passed s.ending := by
  have hRest := Passed.join_lines s.trailing_other
  unfold ending
  cases s.statement.isParenthesized with
  | false => exact hRest
  | true => exact .punctuation (c := ')') rfl hRest.2

theorem arguments_opens (s : SettingsScript) :
    Opens ((if s.statement.isParenthesized then "(" else "" : Text) ++
        (s.statement.arguments ++ s.ending)) (s.statement.arguments ++ s.ending) := by
  cases hParenthesized : s.statement.isParenthesized with
  | true => exact .parenthesis _
  | false =>
      obtain ⟨more, hMore⟩ := Text.exists_join_cons ',' s.statement.first.text
        (s.statement.others.map WrittenProject.text)
      have hArguments : s.statement.arguments ++ s.ending =
          s.statement.first.mark :: (s.statement.first.path ++
            s.statement.first.mark :: s.statement.first.after ++ more ++ s.ending) := by
        rw [IncludeStatement.arguments, IncludeStatement.projects, List.map_cons, hMore,
          WrittenProject.text, s.statement.first_bare hParenthesized]
        simp
      rw [hArguments]
      exact .bare s.statement.first.mark_valid _

/-- The arguments of a settings file are those of its `include`. -/
theorem includes_text (s : SettingsScript) :
    includes s.text = [(s.statement.arguments ++ s.ending).takeWhile isArgument] := by
  have hTail : Text.join ['\n'] ((s.statement.text ++ s.trailing) :: s.after) =
      s.statement.indent ++ (includeWord ++ (s.statement.gap ++
        ((if s.statement.isParenthesized then "(" else "" : Text) ++
          (s.statement.arguments ++ s.ending)))) := by
    rw [Text.join_append_cons, IncludeStatement.text, ending]
    cases s.statement.isParenthesized <;> simp [Text.ofString_empty]
  have hHere := includeAt?_statement s.statement.indent_blank s.statement.gap_blank
    s.arguments_opens
  rw [← hTail] at hHere
  have hQuiet : Quiet (afterArguments (s.statement.arguments ++ s.ending)) :=
    (Passed.arguments_append s.passed_ending).2.afterArguments
  have hBefore := fun line hMem => s.lines_valid line (List.mem_append_left _ hMem)
  exact (includes_join_append hBefore (by simp) hHere hQuiet).2

end SettingsScript

end SpringAudit.Gradle

import SpringAudit.Text.Utf8
import SpringAudit.Text.Word
import SpringAudit.Project.Scan

/-!
# The source roots of a Gradle project

Subprojects are named by `include` at the start of a line of a settings file.
The arguments reach from there to a closing parenthesis or the line end; blanks
before them may run over several lines.  Names stand in quotation marks of
either kind, which need not match, and their colons lead down directories.
-/

namespace SpringAudit

namespace Gradle

/-- The files that make a directory a Gradle project. -/
def buildFiles : List Text :=
  ["build.gradle", "build.gradle.kts"]

/-- The files that name the subprojects. -/
def settingsFiles : List Text :=
  ["settings.gradle", "settings.gradle.kts"]

/-- The word that names subprojects. -/
def includeWord : Text := "include"

/-- The arguments of an `include` that starts here, blanks before it allowed, and what
follows them. -/
def includeAt? (t : Text) : Option (Text × Text) :=
  let start : Text := t.dropWhile CodePoint.isBlank
  let following := start.drop includeWord.length
  if start.startsWith includeWord && !following.head?.any CodePoint.isWordPart then
    let opened : Text := following.dropWhile CodePoint.isBlank
    let arguments : Text := if opened.startsWith "(" then opened.drop 1 else opened
    let isArgument (c : CodePoint) : Bool := decide (c ≠ ')') && decide (c ≠ '\n')
    let rest : Text := arguments.dropWhile isArgument
    some (arguments.takeWhile isArgument, if rest.startsWith ")" then rest.drop 1 else rest)
  else none

/-- The arguments of all uses of `include` in a text, in at most `fuel` steps. -/
def includesFrom : Nat → Bool → Text → List Text
  | 0, _, _ => []
  | _ + 1, _, [] => []
  | fuel + 1, isLineStart, c :: rest =>
    match if isLineStart then includeAt? (c :: rest) else none with
    | some (arguments, following) => arguments :: includesFrom fuel false following
    | none => includesFrom fuel (decide (c = '\n')) rest

/-- The arguments of all uses of `include` in a text; each step takes a character. -/
def includes (t : Text) : List Text :=
  includesFrom t.length true t

/-- Whether the code point is a quotation mark. -/
def isQuotationMark (c : CodePoint) : Bool :=
  decide (c = '"') || decide (c = '\'')

/-- The texts between two quotation marks, in at most `fuel` steps. -/
def quotedTextsFrom : Nat → Text → List Text
  | 0, _ => []
  | _ + 1, [] => []
  | fuel + 1, c :: rest =>
    if isQuotationMark c then
      let inner := rest.takeWhile fun d => !isQuotationMark d
      match rest.drop inner.length with
      | [] => []
      | _ :: following =>
        if inner.isEmpty then quotedTextsFrom fuel rest
        else inner :: quotedTextsFrom fuel following
    else quotedTextsFrom fuel rest

/-- The texts between two quotation marks; each step takes a character. -/
def quotedTexts (t : Text) : List Text :=
  quotedTextsFrom t.length t

/-- The directory of a subproject, which is empty for the root project itself. -/
def subprojectDirectory (name : Text) : Text :=
  (name.stripBy fun c => decide (c = ':')).map fun c : CodePoint => if c = ':' then '/' else c

/-- The directories of the subprojects that a settings text names. -/
def subprojectDirectories (settings : Text) : List Text :=
  ((includes settings).flatMap quotedTexts).map subprojectDirectory |>.filter (!·.isEmpty)

/-- The text of a settings file; there is none if there is no such file. -/
def settingsText (tree : FileNode) (p : Path) : Text :=
  match tree.read p with
  | .ok octets => Text.normalizeLineEnds (Text.ofUtf8Lenient octets)
  | .error _ => []

/-- The source roots of a Gradle project: its own and those of its subprojects. -/
def sourceRoots (tree : FileNode) (root : Path) : List Path :=
  root.join defaultSourceDirectory ::
    settingsFiles.flatMap fun name =>
      (subprojectDirectories (settingsText tree (root.join name))).map fun directory =>
        (root.join directory).join defaultSourceDirectory

end Gradle

end SpringAudit

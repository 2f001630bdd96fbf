import SpringAudit.Text.Identifier
import SpringAudit.Java.Number
import SpringAudit.Java.Token
import SpringAudit.Java.UnicodeEscape

/-!
# The lexer

The text is read from left to right, one blank stretch, comment or token at a
time.  Line numbers count the line ends in blanks and comments, not those inside
strings.  When an error names no character of its own, it shows the one that
follows the last token.
-/

namespace SpringAudit.Java

/-- Where the lexer stands. -/
structure Cursor where
  rest : Text
  position : Nat
  line : Nat
  previousEnd : Nat

namespace Cursor

/-- Passes over blanks or a comment. -/
def skip (here : Cursor) (count : Nat) : Cursor :=
  { here with
    rest := here.rest.drop count
    position := here.position + count
    line := here.line + (here.rest.take count).count (CodePoint.ofChar '\n') }

/-- Reads a token of a given length. -/
def token (here : Cursor) (kind : TokenKind) (count : Nat) : Option Token × Cursor :=
  (some ⟨kind, here.rest.take count⟩,
    { here with
      rest := here.rest.drop count
      position := here.position + count
      previousEnd := here.position + count })

/-- The error that names a character. -/
def failShowing (here : Cursor) (source : Text) (fault : LexicalFault) (shown : CodePoint) :
    SourceFailure :=
  .lexical ⟨fault, [shown], here.line, lineAround source here.position⟩

/-- The error that shows what follows the last token. -/
def fail (here : Cursor) (source : Text) (fault : LexicalFault) : SourceFailure :=
  match source[here.previousEnd]? with
  | some shown => here.failShowing source fault shown
  | none => .abandoned

end Cursor

/-- Where reading stands within a string literal. -/
inductive StringState where
  | plain
  | backslash
  | octalStart
  | octalEnd

/-- Why a string literal has no end. -/
inductive StringFault where
  | textEnds
  | illegalEscape (shown : CodePoint)

/-- The length of a string literal after its opening mark, the closing mark included.  An
octal escape that could be long stays open until an octal digit, a backslash or the mark. -/
def stringLength (mark : CodePoint) : StringState → Text → Except StringFault Nat
  | _, [] => .error .textEnds
  | .plain, c :: rest =>
    if c = '\\' then (stringLength mark .backslash rest).map (· + 1)
    else if c = mark then .ok 1
    else (stringLength mark .plain rest).map (· + 1)
  | .backslash, c :: rest =>
    if ("btnfru\"'\\" : Text).contains c then (stringLength mark .plain rest).map (· + 1)
    else if ("0123" : Text).contains c then (stringLength mark .octalStart rest).map (· + 1)
    else if ("4567" : Text).contains c then (stringLength mark .octalEnd rest).map (· + 1)
    else .error (.illegalEscape c)
  | .octalStart, c :: rest =>
    if c.isOctalDigit then (stringLength mark .octalEnd rest).map (· + 1)
    else if c = '\\' then (stringLength mark .backslash rest).map (· + 1)
    else if c = mark then .ok 1
    else (stringLength mark .octalStart rest).map (· + 1)
  | .octalEnd, c :: rest =>
    if c = '\\' then (stringLength mark .backslash rest).map (· + 1)
    else if c = mark then .ok 1
    else (stringLength mark .plain rest).map (· + 1)

/-- The length of the text up to the end of the first `*/`, if there is one. -/
def blockCommentLength? : Text → Option Nat
  | [] => none
  | [_] => none
  | c :: d :: rest =>
    if c = '*' ∧ d = '/' then some 2
    else (blockCommentLength? (d :: rest)).map (· + 1)

/-- The length of the text up to and with the first line end. -/
def lineLength (t : Text) : Nat :=
  let line := (t.takeWhile fun c : CodePoint => decide (c ≠ '\n')).length
  if (t.drop line).isEmpty then line else line + 1

/-- Reads the number at the cursor, given its length. -/
def numberToken (source : Text) (here : Cursor) (length : Except NumberFault Nat) :
    Except SourceFailure (Option Token × Cursor) :=
  match length with
  | .ok count => .ok (here.token .literal count)
  | .error (.exponentMissing (some shown)) =>
    .error (here.failShowing source .hexFloatWithoutExponent shown)
  | .error _ => .error .abandoned

/-- Reads the string or character literal at the cursor. -/
def stringToken (source : Text) (here : Cursor) (mark : CodePoint) (rest : Text) :
    Except SourceFailure (Option Token × Cursor) :=
  match stringLength mark .plain rest with
  | .ok count => .ok (here.token .literal (count + 1))
  | .error .textEnds => .error (here.fail source .unterminatedString)
  | .error (.illegalEscape shown) => .error (here.failShowing source .illegalEscape shown)

/-- Reads one blank stretch, comment or token. -/
def nextToken (source : Text) (here : Cursor) : Except SourceFailure (Option Token × Cursor) :=
  match here.rest with
  | [] => .ok (none, here)
  | c :: rest =>
    if c.isBlank then
      .ok (none, here.skip (here.rest.takeWhile CodePoint.isBlank).length)
    else if here.rest.startsWith "//" then .ok (none, here.skip (lineLength here.rest))
    else if here.rest.startsWith "/*" then
      match blockCommentLength? (here.rest.drop 2) with
      | some count => .ok (none, here.skip (count + 2))
      | none => .error (here.fail source .unterminatedComment)
    else if here.rest.startsWith "..." then .ok (here.token .operator 3)
    else if c = '@' then .ok (here.token .atSign 1)
    else if c = '.' ∧ rest.head?.any CodePoint.isAsciiDigit then
      numberToken source here (decimalLength here.rest)
    else if separators.contains c then .ok (here.token .separator 1)
    else if c = '\'' ∨ c = '"' then stringToken source here c rest
    else if c.isAsciiDigit then numberToken source here (numberLength here.rest)
    else if c.isIdentifierStart then
      let word := here.rest.takeWhile CodePoint.isIdentifierPart
      .ok (here.token (.ofWord word) word.length)
    else
      match operatorAt? here.rest with
      | some operator => .ok (here.token .operator operator.length)
      | none => .error (here.failShowing source .unknownCharacter c)

/-- Reads at most `fuel` blank stretches, comments and tokens. -/
def tokensFrom (source : Text) : Nat → Cursor → Except SourceFailure (List Token)
  | 0, _ => .ok []
  | fuel + 1, here =>
    match here.rest with
    | [] => .ok []
    | _ :: _ => do
      let (token, next) ← nextToken source here
      let tokens ← tokensFrom source fuel next
      return token.toList ++ tokens

/-- The tokens of a source text; each step reads at least one character, so as many steps
as there are characters suffice. -/
def tokenize (source : Text) : Except SourceFailure (List Token) := do
  let expanded ← expandUnicodeEscapes source
  tokensFrom expanded expanded.length ⟨expanded, 0, 1, 0⟩

end SpringAudit.Java

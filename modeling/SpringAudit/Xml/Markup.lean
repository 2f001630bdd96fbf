import SpringAudit.Xml.Error
import SpringAudit.Xml.Name

/-!
# Parts of markup

The readers here take a part of markup from the start of a text and give what is
left.  A fault stands where the part begins if the text ends inside it, and else
at the character that does not fit.
-/

namespace SpringAudit.Xml

/-- The fault of a character that does not fit, or of the end of the text. -/
def misfit {α : Type} (start t : Text) : Reading α :=
  if t.isEmpty then failAt .unclosedToken start else failAt .invalidToken t

/-- Takes a given text. -/
def expect (start : Text) : Text → Text → Reading Text
  | [], t => .ok t
  | _ :: _, [] => failAt .unclosedToken start
  | expected :: more, c :: rest =>
    if c = expected then expect start more rest else failAt .invalidToken (c :: rest)

/-- Takes white space, at least one character of it. -/
def someSpace (start t : Text) : Reading Text :=
  if startsWithSpace t then .ok (afterSpace t) else misfit start t

/-- Takes a name without a colon. -/
def plainName (start t : Text) : Reading (Text × Text) :=
  match t with
  | c :: _ =>
    if isNameStart c then
      let name := t.takeWhile isNamePart
      .ok (name, t.drop name.length)
    else failAt .invalidToken t
  | [] => failAt .unclosedToken start

/-- Takes a name that may have a prefix, given how its second part is taken. -/
def nameInParts (second : Text → Reading (Text × Text)) (start t : Text) :
    Reading (Text × Text) := do
  let (first, rest) ← plainName start t
  match rest with
  | c :: more =>
    if c = ':' then
      let (last, rest) ← second more
      return (first ++ ":" ++ last, rest)
    else return (first, rest)
  | [] => return (first, rest)

/-- Takes a name that may have a prefix. -/
def prefixedName (start t : Text) : Reading (Text × Text) :=
  nameInParts (plainName start) start t

/-- Takes a name token, which may start like the inside of a name. -/
def nameToken (start t : Text) : Reading (Text × Text) :=
  let token := t.takeWhile isNamePart
  if token.isEmpty then misfit start t else .ok (token, t.drop token.length)

/-- Takes a name in a declaration, where what comes after a prefix is any name token. -/
def declaredName (start t : Text) : Reading (Text × Text) :=
  nameInParts (nameToken start) start t

/-- The prefix and the local part of a name; the prefix is empty if there is none. -/
def splitName (name : Text) : Text × Text :=
  match Text.splitOn ':' name with
  | [before, localPart] => (before, localPart)
  | _ => ([], name)

/-- What a search for a closing mark finds. -/
inductive Span where
  | closed (inner rest : Text)
  /-- A code point that may not occur in a document comes first. -/
  | misfit (rest : Text)
  | unclosed

/-- The text up to a closing mark. -/
def spanTo (mark : Text) : Text → Span
  | [] => .unclosed
  | c :: rest =>
    if Text.startsWith (c :: rest) mark then .closed [] (List.drop mark.length (c :: rest))
    else if isCharacter c then
      match spanTo mark rest with
      | .closed inner after => .closed (c :: inner) after
      | failure => failure
    else .misfit (c :: rest)

/-- Takes the text up to a closing mark, with a cause for the case that there is none. -/
def takeUpTo (mark : Text) (unclosed : Cause) (start t : Text) : Reading (Text × Text) :=
  match spanTo mark t with
  | .unclosed => failAt unclosed start
  | .misfit rest => failAt .invalidToken rest
  | .closed inner rest => .ok (inner, rest)

/-- Takes a comment after its opening mark. -/
def comment (start t : Text) : Reading Text := do
  let (_, rest) ← takeUpTo "--" .unclosedToken start t
  expect start ">" rest

/-- Takes a processing instruction after its opening mark. -/
def instruction (start t : Text) : Reading Text := do
  let (target, rest) ← plainName start t
  if rest.isEmpty then failAt .unclosedToken start
  else if target = ("xml" : Text) then failAt .misplacedDeclaration start
  else if Text.lowerAscii target = ("xml" : Text) then failAt .invalidToken rest
  else if rest.startsWith "?>" then return rest.drop 2
  else
    let rest ← someSpace start rest
    let (_, rest) ← takeUpTo "?>" .unclosedToken start rest
    return rest

/-- A reference as it is written. -/
inductive Reference where
  | character (number : Nat)
  | entity (name : Text)

/-- The number of digits in a base. -/
def numberOf (base : Nat) (digits : Text) : Nat :=
  digits.foldl (fun n c => n * base + (c.hexValue?.getD 0)) 0

/-- Takes the digits and the semicolon of a character reference. -/
def characterReference (base : Nat) (isDigit : CodePoint → Bool) (start t : Text) :
    Reading (Reference × Text) := do
  let digits : Text := t.takeWhile isDigit
  let rest := t.drop digits.length
  if digits.isEmpty then misfit start rest
  else return (.character (numberOf base digits), ← expect start ";" rest)

/-- Takes a reference after its ampersand. -/
def reference (start t : Text) : Reading (Reference × Text) := do
  if t.startsWith "#x" then
    characterReference 16 CodePoint.isHexDigit start (t.drop 2)
  else if t.startsWith "#" then
    characterReference 10 CodePoint.isAsciiDigit start (t.drop 1)
  else
    let (name, rest) ← plainName start t
    return (.entity name, ← expect start ";" rest)

/-- The character of a reference by number. -/
def referredCharacter (start : Text) (number : Nat) : Reading CodePoint :=
  match CodePoint.ofNat? number with
  | some c => if isCharacter c then .ok c else failAt .invalidCharacterNumber start
  | none => failAt .invalidCharacterNumber start

/-- The characters that have a name in every document. -/
def predefinedEntities : List (Text × CodePoint) :=
  [("amp", '&'), ("lt", '<'), ("gt", '>'), ("quot", '"'), ("apos", '\'')]

/-- Takes a quoted text, whose mark is the first character; what is inside is not looked at
but for the characters. -/
def quotedText (start t : Text) : Reading (Text × Text) :=
  match t with
  | mark :: rest =>
    if mark = '"' ∨ mark = '\'' then takeUpTo [mark] .unclosedToken start rest
    else failAt .invalidToken t
  | [] => failAt .unclosedToken start

end SpringAudit.Xml

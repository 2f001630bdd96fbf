import SpringAudit.Java.Token

/-!
# Parsers over tokens

A parser takes tokens from the front of a list.  Its failures are a mismatch,
which lets an alternative be tried; the end of the tokens where one has to
follow, or where an operand may go on; and a bound that is used up.  Only a
mismatch is ever recovered from.

After an attempt that fails, parsing resumes where the attempt began, unless
another attempt inside it has succeeded: then it resumes where the last of these
would have resumed.  So tokens before the inner attempt stay taken.

Repetition is bounded by the number of tokens in the whole text, which every
parser can look up, since each round takes a token.
-/

namespace SpringAudit.Java

/-- Why a phrase cannot be parsed. -/
inductive ParseFailure where
  /-- The tokens are those to resume at. -/
  | mismatch (description : Text) (resume : List Token)
  | endOfTokens
  /-- The tokens end behind an operand, and there is no telling whether it goes on. -/
  | openOperand
  /-- A bound on rounds or levels is used up. -/
  | exhausted
  deriving DecidableEq

/-- Where a parser stands. -/
structure ParserState where
  /-- The tokens that are left. -/
  rest : List Token
  /-- The tokens to resume at if the innermost attempt fails. -/
  resume : List Token

/-- A parser of phrases that denote values of a type.  It knows a bound on rounds and levels. -/
abbrev Parser := ReaderT Nat (StateT ParserState (Except ParseFailure))

/-- What may be asked of a single token. -/
inductive Expected where
  | word (text : Text)
  | kind (kind : TokenKind)

/-- The name of a token class in a mismatch. -/
def TokenKind.label : TokenKind → Text
  | .separator => "Separator"
  | .atSign => "Annotation"
  | .operator => "Operator"
  | .keyword => "Keyword"
  | .modifier => "Modifier"
  | .basicType => "BasicType"
  | .identifier => "Identifier"
  | .literal => "Literal"

namespace Expected

instance : Coe String Expected := ⟨fun s => .word s⟩

instance : Coe TokenKind Expected := ⟨.kind⟩

/-- An opening brace. -/
def openBrace : Expected := "\x7b"

/-- A closing brace. -/
def closeBrace : Expected := "\x7d"

/-- Whether a token is as expected. -/
def matches? : Expected → Token → Bool
  | .word spelling, token => token.text = spelling
  | .kind k, token => token.kind = k

/-- The description of a mismatch. -/
def description : Expected → Text
  | .word spelling => "Expected '" ++ spelling ++ "'"
  | .kind k => "Expected " ++ k.label

/-- Whether a token list starts with tokens as expected, one after another. -/
def matchAll? : List Expected → List Token → Bool
  | [], _ => true
  | _ :: _, [] => false
  | e :: expected, token :: tokens => e.matches? token && matchAll? expected tokens

end Expected

namespace Parser

export Expected (openBrace closeBrace)

/-- Fails in a way that lets another alternative be tried. -/
def mismatch {α : Type} (description : Text) : Parser α := do
  throw (.mismatch description (← get).resume)

/-- The tokens that are left. -/
def remaining : Parser (List Token) := do
  return (← get).rest

/-- Leaves the given tokens. -/
def leave (tokens : List Token) : Parser Unit :=
  modify fun here => { here with rest := tokens }

/-- The next token, which is not taken. -/
def peek : Parser (Option Token) := do
  return (← remaining).head?

/-- Whether the next tokens are as expected, one after another. -/
def next? (expected : List Expected) : Parser Bool := do
  return Expected.matchAll? expected (← remaining)

/-- Whether the next token has one of the spellings. -/
def nextIn? (spellings : List Text) : Parser Bool := do
  return (← peek).any fun token => spellings.contains token.text

/-- Takes a token that has to be as expected. -/
def take (expected : Expected) : Parser Text := do
  match ← remaining with
  | [] => throw .endOfTokens
  | token :: rest =>
    leave rest
    if expected.matches? token then return token.text
    else mismatch expected.description

/-- Takes tokens that have to be as expected. -/
def skip (expected : List Expected) : Parser Unit :=
  expected.forM fun e => discard (take e)

/-- Takes the tokens if all are as expected and tells whether it did. -/
def skip? (expected : List Expected) : Parser Bool := do
  if ← next? expected then
    leave ((← remaining).drop expected.length)
    return true
  else return false

/-- Takes the next token, whatever it is. -/
def takeAny : Parser Token := do
  match ← remaining with
  | [] => throw .endOfTokens
  | token :: rest =>
    leave rest
    return token

/-- Makes the next token the one to resume at. -/
def mark : Parser Unit :=
  modify fun here => { here with resume := here.rest }

/-- Goes back to the token to resume at. -/
def goBack : Parser Unit :=
  modify fun here => { here with rest := here.resume }

/-- Runs a parser; a mismatch is no result.  If it succeeds, the attempt around it resumes
where this one would have. -/
def attempt {α : Type} (p : Parser α) : Parser (Option α) := fun bound here =>
  match (do mark; p) bound here with
  | .ok (result, after) => .ok (some result, after)
  | .error (.mismatch _ resume) => .ok (none, { here with rest := resume })
  | .error failure => .error failure

/-- Repeats a step at most `fuel` times, until it has no result. -/
def repeatUpTo {α : Type} (step : Parser (Option α)) : Nat → Parser (List α)
  | 0 => throw .exhausted
  | fuel + 1 => do
    match ← step with
    | none => return []
    | some result => return result :: (← repeatUpTo step fuel)

/-- Repeats a step that takes a token whenever it has a result, until it has none. -/
def repeatSome {α : Type} (step : Parser (Option α)) : Parser (List α) := do
  repeatUpTo step (← read)

/-- Repeats a phrase as long as it says so; while it does, it takes a token. -/
def repeatWhile (phrase : Parser Bool) : Parser Unit :=
  discard (repeatSome do
    if ← phrase then return some () else return none)

/-- Repeats a phrase as long as a condition holds. -/
def whileTrue {α : Type} (condition : Parser Bool) (phrase : Parser α) : Parser (List α) :=
  repeatSome do
    if ← condition then return some (← phrase) else return none

/-- Repeats a phrase up to, and not with, a given token. -/
def upTo {α : Type} (last : Expected) (phrase : Parser α) : Parser (List α) :=
  whileTrue (return !(← next? [last])) phrase

/-- One phrase and then more of them, each after a separator. -/
def separated {α : Type} (separator : Expected) (phrase : Parser α) : Parser (List α) := do
  let first ← phrase
  return first :: (← whileTrue (skip? [separator]) phrase)

/-- Phrases with separators between them, up to and with a closing token. -/
def separatedThrough {α : Type} (separator last : Expected) (phrase : Parser α) :
    Parser (List α) := do
  let first ← phrase
  let more ← repeatSome do
    if ← skip? [last] then return none
    else
      skip [separator]
      return some (← phrase)
  return first :: more

/-- Runs a parser only if a condition holds. -/
def onlyIf {α : Type} (condition : Parser Bool) (p : Parser α) : Parser Unit := do
  if ← condition then discard p

/-- Takes an identifier. -/
def identifier : Parser Text :=
  take TokenKind.identifier

/-- Takes a dotted name. -/
def qualifiedName : Parser Text := do
  return Text.join "." (← separated "." identifier)

/-- Takes pairs of brackets and tells how many. -/
def dimensions : Parser Nat := do
  return (← whileTrue (skip? ["[", "]"]) (pure ())).length

/-- Whether an annotation starts here, and not the declaration of an annotation type. -/
def annotationAhead? : Parser Bool := do
  return (← next? [TokenKind.atSign]) && !(← next? [TokenKind.atSign, "interface"])

/-- Whether the declaration of an annotation type starts here. -/
def annotationTypeAhead? : Parser Bool :=
  next? [TokenKind.atSign, "interface"]

end Parser

end SpringAudit.Java

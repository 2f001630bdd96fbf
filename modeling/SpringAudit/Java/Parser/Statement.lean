import SpringAudit.Java.Parser.Expression

/-!
# Statements

Statements are recognised and dropped.  What a statement in a block is depends
on the first token after its annotations and modifiers.  A token that directly
follows an annotation without parentheses is not looked at for this.
-/

namespace SpringAudit.Java

/-- What follows the parentheses that are open, `depth` in number. -/
def afterParentheses : Nat → List Token → List Token
  | 0, tokens => tokens
  | _ + 1, [] => []
  | depth + 1, token :: rest =>
    if token.spells "(" then afterParentheses (depth + 2) rest
    else if token.spells ")" then afterParentheses depth rest
    else afterParentheses (depth + 1) rest

/-- What follows further pieces of a dotted name. -/
def afterPieces : List Token → List Token
  | dot :: piece :: rest =>
    if dot.spells "." then afterPieces rest else dot :: piece :: rest
  | [dot] => if dot.spells "." then [] else [dot]
  | [] => []

/-- What a statement in a block turns out to be. -/
inductive BlockStatementKind where
  | typeDeclaration
  | variableDeclaration
  | statement
  /-- A declaration of variables or, if it cannot be one, a statement. -/
  | undecided
  deriving DecidableEq

/-- The decision by the first token that is neither annotation nor `final`. -/
def BlockStatementKind.ofToken (annotated : Bool) (token : Option Token) : BlockStatementKind :=
  if token.any fun t => t.spells "class" || t.spells "enum" || t.spells "interface" ||
      t.spells "@" then .typeDeclaration
  else if annotated || token.any (·.kind = .basicType) then .variableDeclaration
  else if token.any (·.kind = .identifier) then .undecided
  else .statement

/-- Looks past annotations and modifiers, at most `fuel` of them; a modifier other than
`final` can only belong to a type declaration. -/
def blockStatementKind (annotated : Bool) : Nat → List Token → BlockStatementKind
  | 0, _ => .statement
  | _ + 1, [] => .ofToken annotated none
  | fuel + 1, token :: rest =>
    if token.kind = .modifier then
      if token.spells "final" then blockStatementKind annotated fuel rest else .typeDeclaration
    else if token.kind = .atSign ∧ ¬rest.head?.any (·.spells "interface") then
      let following := afterPieces (rest.drop 1)
      if following.head?.any (·.spells "(") then
        blockStatementKind true fuel (afterParentheses 1 (following.drop 1))
      else blockStatementKind true fuel (following.drop 1)
    else .ofToken annotated (some token)

namespace Parser

variable (within : Phrases)

/-- What follows the name of a variable. -/
def variableRest : Parser Unit := do
  discard dimensions
  onlyIf (skip? ["="]) (initializer within)

/-- A variable with its initial value. -/
def variableDeclarator : Parser Unit := do
  discard identifier
  variableRest within

/-- A declaration of local variables. -/
def localVariables : Parser Unit := do
  variableModifiers within
  discard type
  discard (separated "," (variableDeclarator within))
  skip [";"]

/-- Expressions with commas between them. -/
def expressionList : Parser Unit :=
  discard (separated "," within.expression)

/-- Whether a label starts here. -/
def labelAhead? : Parser Bool :=
  next? [TokenKind.identifier, ":"]

/-- The condition and the update of a counting loop. -/
def loopConditionAndUpdate : Parser Unit := do
  unless ← next? [";"] do
    discard within.expression
  skip [";"]
  unless ← next? [")"] do
    expressionList within

/-- The control of a loop that declares its variable. -/
def declaringLoopControl : Parser Unit := do
  variableModifiers within
  discard type
  discard identifier
  discard dimensions
  if ← skip? [":"] then discard within.expression
  else
    unless ← next? [";"] do
      onlyIf (skip? ["="]) (initializer within)
      discard (whileTrue (skip? [","]) (variableDeclarator within))
    skip [";"]
    loopConditionAndUpdate within

/-- The control of a `for` loop. -/
def loopControl : Parser Unit := do
  if (← attempt (declaringLoopControl within)).isNone then
    unless ← next? [";"] do
      expressionList within
    skip [";"]
    loopConditionAndUpdate within

/-- One `catch` clause. -/
def catchClause : Parser Unit := do
  skip ["catch", "("]
  variableModifiers within
  discard (separated "|" qualifiedName)
  discard identifier
  skip [")"]
  within.block

/-- The clauses after a tried block; tells whether there are any. -/
def handlers : Parser Bool := do
  let clauses ← whileTrue (next? ["catch"]) (catchClause within)
  let last ← skip? ["finally"]
  if last then within.block
  return last || !clauses.isEmpty

/-- One resource of a `try` statement. -/
def resource : Parser Unit := do
  variableModifiers within
  discard referenceType
  discard dimensions
  discard identifier
  discard dimensions
  skip ["="]
  discard within.expression

/-- The resources of a `try` statement. -/
def resources : Parser Unit := do
  skip ["("]
  let item := do
    resource within
    unless ← next? [")"] do
      skip [";"]
  item
  discard (whileTrue (return !(← skip? [")"])) item)

/-- A `try` statement after its first word. -/
def tryRest : Parser Unit := do
  if ← next? [openBrace] then
    within.block
    unless ← handlers within do
      mismatch "Expected catch/finally block"
  else
    resources within
    within.block
    discard (handlers within)

/-- A `case` or `default` label. -/
def switchLabel : Parser Unit := do
  let word ← takeAny
  if word.spells "case" then
    if ← labelAhead? then discard identifier
    else discard within.expression
  else if !word.spells "default" then mismatch "Expected switch case"
  skip [":"]

/-- Whether a label of a `switch` follows. -/
def switchLabelAhead? : Parser Bool :=
  nextIn? ["case", "default"]

/-- Labels and the statements that they lead to. -/
def switchGroup : Parser Unit := do
  switchLabel within
  discard (whileTrue switchLabelAhead? (switchLabel within))
  discard (whileTrue (return !((← switchLabelAhead?) || (← next? [closeBrace])))
    within.blockStatement)

/-- The statements of a `switch`. -/
def switchBody : Parser Unit := do
  skip [openBrace]
  discard (whileTrue switchLabelAhead? (switchGroup within))
  skip [closeBrace]

/-- An optional label and the end of a statement that leaves a loop. -/
def leaveRest : Parser Unit := do
  onlyIf (next? [TokenKind.identifier]) identifier
  skip [";"]

/-- A condition in parentheses. -/
def condition : Parser Unit :=
  discard (parenthesised within)

/-- A statement. -/
def statement : Parser Unit := do
  if ← next? [openBrace] then within.block
  else if ← skip? [";"] then return
  else if ← labelAhead? then
    skip [TokenKind.identifier, ":"]
    within.statement
  else if ← skip? ["if"] then
    condition within
    within.statement
    onlyIf (skip? ["else"]) within.statement
  else if ← skip? ["assert"] then
    discard within.expression
    onlyIf (skip? [":"]) within.expression
    skip [";"]
  else if ← skip? ["switch"] then
    condition within
    switchBody within
  else if ← skip? ["while"] then
    condition within
    within.statement
  else if ← skip? ["do"] then
    within.statement
    skip ["while"]
    condition within
    skip [";"]
  else if ← skip? ["for"] then
    skip ["("]
    loopControl within
    skip [")"]
    within.statement
  else if ← skip? ["break"] then leaveRest
  else if ← skip? ["continue"] then leaveRest
  else if ← skip? ["return"] then
    unless ← next? [";"] do
      discard within.expression
    skip [";"]
  else if ← skip? ["throw"] then
    discard within.expression
    skip [";"]
  else if ← skip? ["synchronized"] then
    condition within
    within.block
  else if ← skip? ["try"] then tryRest within
  else
    discard within.expression
    skip [";"]

/-- A block. -/
def block : Parser Unit := do
  skip [openBrace]
  discard (upTo closeBrace within.blockStatement)
  skip [closeBrace]

end Parser

end SpringAudit.Java

import SpringAudit.Java.Parser.AnnotationUse

/-!
# Expressions

Infix operators group by precedence and to the left.  An opening parenthesis may
start a lambda expression, a cast or a parenthesised expression, which are tried
in this order; lambda expressions and casts drop the prefix operators before
them.  Parentheses leave no trace, and the operators and selectors around them
replace those inside.
-/

namespace SpringAudit.Java

/-- The operators that may stand before an operand. -/
def prefixOperators : List Text :=
  ["++", "--", "!", "~", "+", "-"].map Text.ofString

/-- The operators that may stand after an operand. -/
def postfixOperators : List Text :=
  ["++", "--"].map Text.ofString

/-- The operators that assign. -/
def assignmentOperators : List Text :=
  ["=", "+=", "-=", "*=", "/=", "&=", "|=", "^=", "%=", "<<=", ">>=", ">>>="].map Text.ofString

/-- The infix operators by precedence, those that bind weakest first. -/
def infixLevels : List (List Text) :=
  [["||"], ["&&"], ["|"], ["^"], ["&"], ["==", "!="], ["<", ">", ">=", "<=", "instanceof"],
    ["<<", ">>", ">>>"], ["+", "-"], ["*", "/", "%"]].map (·.map Text.ofString)

/-- The spellings that an infix operator starts with. -/
def infixStarts : List Text :=
  infixLevels.flatten

/-- Splits what follows an operand at the operators of one level. -/
def splitAtLevel (level : List Text) :
    List (Text × Expression) →
      List (Text × Expression) × List (Text × Expression × List (Text × Expression))
  | [] => ([], [])
  | (operator, operand) :: rest =>
    let (segment, groups) := splitAtLevel level rest
    if level.contains operator then ([], (operator, operand, segment) :: groups)
    else ((operator, operand) :: segment, groups)

/-- Groups operands by the levels of their operators. -/
def groupInfix : List (List Text) → Expression → List (Text × Expression) → Expression
  | [], first, _ => first
  | level :: levels, first, rest =>
    let (segment, groups) := splitAtLevel level rest
    groups.foldl
      (fun left (operator, operand, following) =>
        .binary operator left (groupInfix levels operand following))
      (groupInfix levels first segment)

/-- The expression with its prefix operators and selectors replaced. -/
def Expression.around (prefixes : List Text) (selectors : List Expression) :
    Expression → Expression
  | .literal spelling _ _ => .literal spelling prefixes selectors
  | .reference qualifier member _ _ => .reference qualifier member prefixes selectors
  | .call qualifier member arguments _ _ => .call qualifier member arguments prefixes selectors
  | e => e

namespace Parser

variable (within : Phrases)

/-- The arguments of a call. -/
def arguments : Parser (List Expression) := do
  skip ["("]
  if ← skip? [")"] then return []
  let found ← separated "," within.expression
  skip [")"]
  return found

/-- An expression in parentheses. -/
def parenthesised : Parser Expression := do
  skip ["("]
  let inner ← within.expression
  skip [")"]
  return inner

/-- What follows `super`. -/
def superSuffix : Parser Expression := do
  if ← skip? ["."] then
    onlyIf (next? ["<"]) plainTypeArguments
    discard identifier
    if ← next? ["("] then
      discard (arguments within)
      return .other "SuperMethodInvocation"
    else return .other "SuperMemberReference"
  else
    discard (arguments within)
    return .other "SuperConstructorInvocation"

/-- What follows the type arguments of a call. -/
def genericCallTarget : Parser Expression := do
  if ← skip? ["super"] then superSuffix within
  else
    let member ← identifier
    return .call [] member (← arguments within) [] []

/-- A call with explicit type arguments. -/
def genericCall : Parser Expression := do
  plainTypeArguments
  genericCallTarget within

/-- The arguments and the optional body of a new object. -/
def creationArguments : Parser Unit := do
  discard (arguments within)
  onlyIf (next? [openBrace]) within.classBody

/-- The creation of an object of an inner class. -/
def innerCreation : Parser Expression := do
  onlyIf (next? ["<"]) plainTypeArguments
  discard identifier
  onlyIf (next? ["<"]) plainTypeArgumentsOrDiamond
  creationArguments within
  return .other "InnerClassCreator"

/-- An array initialiser; a comma may stand alone or before the closing brace. -/
def arrayInitializer : Parser Unit := do
  skip [openBrace]
  if ← skip? [","] then skip [closeBrace]
  else if ← skip? [closeBrace] then return
  else
    let item := do
      within.initializer
      unless ← next? [closeBrace] do
        skip [","]
    item
    discard (whileTrue (return !(← skip? [closeBrace])) item)

/-- The initial value of a variable. -/
def initializer : Parser Unit := do
  if ← next? [openBrace] then arrayInitializer within
  else discard within.expression

/-- What follows the element type of a new array. -/
def arrayCreation : Parser Expression := do
  if ← next? ["[", "]"] then
    discard dimensions
    arrayInitializer within
  else
    discard (whileTrue (return (← next? ["["]) && !(← next? ["[", "]"])) do
      skip ["["]
      discard within.expression
      skip ["]"])
    discard dimensions
  return .other "ArrayCreator"

/-- What follows `new`. -/
def creation : Parser Expression := do
  if ← next? [TokenKind.basicType] then
    discard basicType
    arrayCreation within
  else
    let generic ← next? ["<"]
    if generic then plainTypeArguments
    createdName
    if ← next? ["["] then
      if generic then
        mismatch "Array creator not allowed with generic constructor type arguments"
      else arrayCreation within
    else
      creationArguments within
      return .other "ClassCreator"

/-- What follows a dotted name; the pieces of the name are given. -/
def nameSuffix (pieces : List Text) : Parser Expression := do
  let qualifier := Text.join "." pieces.dropLast
  let member := pieces.getLast?.getD []
  if ← skip? ["[", "]"] then
    discard dimensions
    skip [".", "class"]
    return .other "ClassReference"
  else if ← next? ["("] then
    return .call qualifier member (← arguments within) [] []
  else if ← skip? [".", "class"] then return .other "ClassReference"
  else if ← skip? [".", "this"] then return .other "This"
  else if ← next? [".", "<"] then
    skip ["."]
    match ← genericCall within with
    | .call _ _ found _ _ => return .call qualifier member found [] []
    | target => return target
  else if ← skip? [".", "new"] then innerCreation within
  else if ← next? [".", "super", "("] then
    skip [".", "super"]
    discard (arguments within)
    return .other "SuperConstructorInvocation"
  else return .reference qualifier member [] []

/-- The innermost part of an operand. -/
def primary : Parser Expression := do
  if ← next? [TokenKind.literal] then
    return .literal (← take TokenKind.literal) [] []
  else if ← next? ["("] then parenthesised within
  else if ← skip? ["this"] then
    if ← next? ["("] then
      discard (arguments within)
      return .other "ExplicitConstructorInvocation"
    else return .other "This"
  else if ← next? ["super", "::"] then
    skip ["super"]
    return .other "Keyword"
  else if ← skip? ["super"] then superSuffix within
  else if ← skip? ["new"] then creation within
  else if ← next? ["<"] then
    plainTypeArguments
    if ← skip? ["this"] then
      discard (arguments within)
      return .other "ExplicitConstructorInvocation"
    else genericCallTarget within
  else if ← next? [TokenKind.identifier] then
    let first ← identifier
    let more ← whileTrue (next? [".", TokenKind.identifier]) do
      skip ["."]
      identifier
    nameSuffix within (first :: more)
  else if ← skip? [TokenKind.basicType] then
    discard dimensions
    skip [".", "class"]
    return .other "ClassReference"
  else if ← skip? ["void"] then
    skip [".", "class"]
    return .other "VoidClassReference"
  else mismatch "Expected expression"

/-- One selector after an operand. -/
def selector : Parser Expression := do
  if ← skip? ["["] then
    discard within.expression
    skip ["]"]
    return .other "ArraySelector"
  else
    skip ["."]
    if ← next? [TokenKind.identifier] then
      let member ← identifier
      if ← next? ["("] then return .call [] member (← arguments within) [] []
      else return .reference [] member [] []
    else if ← next? ["super", "::"] then
      skip ["super"]
      return .other "Keyword"
    else if ← next? ["<"] then genericCall within
    else if ← skip? ["this"] then return .other "This"
    else if ← skip? ["super"] then superSuffix within
    else if ← skip? ["new"] then innerCreation within
    else mismatch "Expected selector"

/-- Whether a selector follows; at the end of the text there is no telling. -/
def selectorAhead? : Parser Bool := do
  match ← peek with
  | none => throw .openOperand
  | some token => return token.spells "[" || token.spells "."

/-- The body of a lambda expression. -/
def lambdaBody : Parser Expression := do
  skip ["->"]
  if ← next? [openBrace] then within.block
  else discard within.expression
  return .other "LambdaExpression"

/-- A lambda expression that starts with a parenthesis. -/
def lambda : Parser Expression := do
  if ← next? ["(", TokenKind.identifier, ","] then
    skip ["("]
    discard (upTo ")" do
      discard identifier
      skip? [","])
    skip [")"]
  else
    discard (parameters within)
  lambdaBody within

/-- A cast. -/
def cast : Parser Expression := do
  skip ["("]
  discard type
  skip [")"]
  discard within.operand
  return .other "Cast"

/-- An operand with its prefix operators, selectors and postfix operators. -/
def plainOperand (prefixes : List Text) : Parser Expression := do
  let inner ← primary within
  let selectors ← whileTrue selectorAhead? (selector within)
  discard (whileTrue (nextIn? postfixOperators) takeAny)
  return inner.around prefixes selectors

/-- An operand of an infix operator. -/
def operand : Parser Expression := do
  let prefixes ← whileTrue (nextIn? prefixOperators) takeAny
  if ← next? ["("] then
    match ← attempt (lambda within) with
    | some found => return found
    | none =>
      match ← attempt (cast within) with
      | some found => return found
      | none => plainOperand within (prefixes.map Token.text)
  else plainOperand within (prefixes.map Token.text)

/-- An infix operator; signs of a right shift are joined. -/
def infixOperator : Parser Text := do
  let operator ← take TokenKind.operator
  if operator = ">" then
    if ← skip? [">"] then
      if ← skip? [">"] then return ">>>"
      else return ">>"
    else return operator
  else return operator

/-- An infix operator or `instanceof` with what follows it. -/
def infixStep : Parser (Text × Expression) := do
  if ← skip? ["instanceof"] then
    let kind : Text := if ← next? [TokenKind.basicType] then "BasicType" else "ReferenceType"
    discard type
    return ("instanceof", .other kind)
  else
    let operator ← infixOperator
    return (operator, ← operand within)

/-- Operands with infix operators between them. -/
def infixExpression : Parser Expression := do
  let first ← operand within
  let rest ← whileTrue (nextIn? infixStarts) (infixStep within)
  return groupInfix infixLevels first rest

/-- An expression without assignment. -/
def conditional : Parser Expression := do
  let first ← infixExpression within
  if ← skip? ["?"] then
    discard within.expression
    skip [":"]
    discard within.conditional
    return .other "TernaryExpression"
  else if ← next? ["->"] then lambdaBody within
  else if ← skip? ["::"] then
    onlyIf (next? ["<"]) plainTypeArguments
    unless ← skip? ["new"] do
      discard within.expression
    return .other "MethodReference"
  else return first

/-- An expression. -/
def expression : Parser Expression := do
  let first ← conditional within
  if ← nextIn? assignmentOperators then
    discard takeAny
    discard within.expression
    return .other "Assignment"
  else return first

/-- The value of an annotation argument. -/
def elementValue : Parser Expression := do
  if ← annotationAhead? then return .annotationUse (← annotationUse within).name
  else if ← next? [openBrace] then elementArray within
  else conditional within

end Parser

end SpringAudit.Java

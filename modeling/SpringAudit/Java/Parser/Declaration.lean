import SpringAudit.Java.Parser.Statement

/-!
# Declarations

A type declaration keeps its annotations and those members that are methods or
types.  In a class body an initialiser is a member of no interest; the constants
of an enum are not members at all.
-/

namespace SpringAudit.Java.Parser

variable (within : Phrases)

/-- Runs a body parser and makes a declaration of its members. -/
def declarationOf (kind : TypeKind) (annotations : List AnnotationSyntax) (name : Text)
    (body : Parser (List Declaration)) : Parser Declaration := do
  return .type kind name annotations (← body)

/-- A class from its first word on. -/
def classRest (annotations : List AnnotationSyntax) : Parser Declaration := do
  skip ["class"]
  let name ← identifier
  onlyIf (next? ["<"]) typeParameters
  onlyIf (skip? ["extends"]) type
  onlyIf (skip? ["implements"]) typeList
  declarationOf .classType annotations name within.classBody

/-- An enum from its first word on. -/
def enumRest (annotations : List AnnotationSyntax) : Parser Declaration := do
  skip ["enum"]
  let name ← identifier
  onlyIf (skip? ["implements"]) typeList
  declarationOf .enumType annotations name within.enumBody

/-- An interface from its first word on. -/
def interfaceRest (annotations : List AnnotationSyntax) : Parser Declaration := do
  skip ["interface"]
  let name ← identifier
  onlyIf (next? ["<"]) typeParameters
  onlyIf (skip? ["extends"]) typeList
  declarationOf .interfaceType annotations name within.interfaceBody

/-- An annotation type from its first token on. -/
def annotationTypeRest (annotations : List AnnotationSyntax) : Parser Declaration := do
  skip ["@", "interface"]
  let name ← identifier
  declarationOf .annotationType annotations name within.annotationTypeBody

/-- A type declaration after its modifiers, if one starts here. -/
def typeRest? (annotations : List AnnotationSyntax) : Parser (Option Declaration) := do
  if ← next? ["class"] then return some (← classRest within annotations)
  else if ← next? ["enum"] then return some (← enumRest within annotations)
  else if ← next? ["interface"] then return some (← interfaceRest within annotations)
  else if ← annotationTypeAhead? then return some (← annotationTypeRest within annotations)
  else return none

/-- A type declaration. -/
def typeDeclaration : Parser Declaration := do
  let annotations ← declarationModifiers within
  match ← typeRest? within annotations with
  | some found => return found
  | none => mismatch "Expected type declaration"

/-- A statement or local declaration. -/
def blockStatement : Parser Unit := do
  if (← labelAhead?) || (← next? ["synchronized"]) then statement within
  else
    match blockStatementKind false (← read) (← remaining) with
    | .typeDeclaration => discard (typeDeclaration within)
    | .variableDeclaration => localVariables within
    | .statement => statement within
    | .undecided =>
      if (← attempt (localVariables within)).isNone then statement within

/-- The `throws` clause of a method. -/
def throwsClause : Parser Unit :=
  onlyIf (skip? ["throws"]) (separated "," qualifiedName)

/-- The body of a method or the semicolon in its place. -/
def methodBody : Parser Unit := do
  if ← next? [openBrace] then within.block else skip [";"]

/-- A method from its name on; only one with a result may have dimensions. -/
def methodRest (annotations : List AnnotationSyntax) (hasResult : Bool) :
    Parser Declaration := do
  let name ← identifier
  let found ← parameters within
  if hasResult then discard dimensions
  throwsClause
  methodBody within
  return .method ⟨name, found, annotations⟩

/-- A constructor. -/
def constructorRest : Parser Declaration := do
  discard identifier
  discard (parameters within)
  throwsClause
  within.block
  return .other

/-- A method or constructor with type parameters. -/
def genericRest (annotations : List AnnotationSyntax) : Parser Declaration := do
  typeParameters
  if ← next? [TokenKind.identifier, "("] then constructorRest within
  else if ← skip? ["void"] then methodRest within annotations false
  else
    discard type
    methodRest within annotations true

/-- Further variables of a field and its end. -/
def fieldRest : Parser Declaration := do
  discard identifier
  variableRest within
  discard (whileTrue (skip? [","]) (variableDeclarator within))
  skip [";"]
  return .other

/-- A member of a class after its modifiers. -/
def memberRest (annotations : List AnnotationSyntax) : Parser Declaration := do
  if ← skip? ["void"] then methodRest within annotations false
  else if ← next? ["<"] then genericRest within annotations
  else
    match ← typeRest? within annotations with
    | some found => return found
    | none =>
      if ← next? [TokenKind.identifier, "("] then constructorRest within
      else
        discard type
        if ← next? [TokenKind.identifier, "("] then methodRest within annotations true
        else fieldRest within

/-- A member of a class or enum body; a lone semicolon is none. -/
def classMember : Parser (Option Declaration) := do
  if ← skip? [";"] then return none
  else if ← next? ["static", openBrace] then
    skip ["static"]
    within.block
    return none
  else if ← next? [openBrace] then
    within.block
    return none
  else
    let annotations ← declarationModifiers within
    return some (← memberRest within annotations)

/-- The members up to the closing brace. -/
def membersThrough (member : Parser (Option Declaration)) : Parser (List Declaration) := do
  let found ← upTo closeBrace member
  skip [closeBrace]
  return found.filterMap id

/-- The body of a class. -/
def classBody : Parser (List Declaration) := do
  skip [openBrace]
  membersThrough within.classMember

/-- A constant of an enum. -/
def enumConstant : Parser Unit := do
  onlyIf (next? [TokenKind.atSign]) (annotations within)
  discard identifier
  onlyIf (next? ["("]) (arguments within)
  onlyIf (next? [openBrace]) within.classBody

/-- The constants of an enum; the last may be followed by a comma. -/
def enumConstants : Parser Unit :=
  repeatWhile do
    if (← next? [";"]) || (← next? [closeBrace]) then return false
    else
      enumConstant within
      skip? [","]

/-- The body of an enum. -/
def enumBody : Parser (List Declaration) := do
  skip [openBrace]
  unless ← skip? [","] do
    enumConstants within
  if ← skip? [";"] then membersThrough within.classMember
  else
    skip [closeBrace]
    return []

/-- The constants of an interface after the name of the first. -/
def constantsRest : Parser Declaration := do
  let value := do
    discard dimensions
    skip ["="]
    initializer within
  value
  discard (whileTrue (skip? [","]) do
    discard identifier
    value)
  return .other

/-- A member of an interface after its modifiers. -/
def interfaceMemberRest (annotations : List AnnotationSyntax) : Parser Declaration := do
  match ← typeRest? within annotations with
  | some found => return found
  | none =>
    if ← next? ["<"] then
      typeParameters
      unless ← skip? ["void"] do
        discard type
      methodRest within annotations true
    else if ← skip? ["void"] then methodRest within annotations false
    else
      discard type
      if ← next? [TokenKind.identifier, "("] then methodRest within annotations true
      else
        discard identifier
        let constants ← constantsRest within
        skip [";"]
        return constants

/-- A member of an interface; a lone semicolon is none. -/
def interfaceMember : Parser (Option Declaration) := do
  if ← skip? [";"] then return none
  else
    let annotations ← declarationModifiers within
    return some (← interfaceMemberRest within annotations)

/-- The body of an interface. -/
def interfaceBody : Parser (List Declaration) := do
  skip [openBrace]
  membersThrough (interfaceMember within)

/-- An element or constant of an annotation type after its name. -/
def annotationElementRest : Parser Declaration := do
  if ← skip? ["("] then
    skip [")"]
    discard dimensions
    onlyIf (skip? ["default"]) within.elementValue
    return .other
  else constantsRest within

/-- A member of an annotation type. -/
def annotationMember : Parser (Option Declaration) := do
  let annotations ← declarationModifiers within
  match ← typeRest? within annotations with
  | some found => return some found
  | none =>
    discard type
    discard identifier
    let element ← annotationElementRest within
    skip [";"]
    return some element

/-- The body of an annotation type. -/
def annotationTypeBody : Parser (List Declaration) := do
  skip [openBrace]
  membersThrough (annotationMember within)

end SpringAudit.Java.Parser

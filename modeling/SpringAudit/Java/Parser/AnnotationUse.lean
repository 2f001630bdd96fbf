import SpringAudit.Java.Parser.Phrases

/-!
# Annotations, modifiers and parameters

An annotation holds either a list of named values or one value.  A pair of empty
braces as the only value counts as an empty list of named values.
-/

namespace SpringAudit.Java.Parser

variable (within : Phrases)

/-- A named value of an annotation. -/
def elementPair : Parser (Text × Expression) := do
  let name ← identifier
  skip ["="]
  return (name, ← within.elementValue)

/-- What stands between the parentheses of an annotation. -/
def annotationBody : Parser AnnotationBody := do
  if ← next? [")"] then return .absent
  else if ← next? [TokenKind.identifier, "="] then
    return .pairs (← separated "," (elementPair within))
  else
    match ← within.elementValue with
    | .emptyBraces => return .pairs []
    | value => return .single value

/-- An annotation. -/
def annotationUse : Parser AnnotationSyntax := do
  skip ["@"]
  let name ← qualifiedName
  if ← skip? ["("] then
    let body ← annotationBody within
    skip [")"]
    return ⟨name, body⟩
  else return ⟨name, .absent⟩

/-- One annotation and those that follow it. -/
def annotations : Parser (List AnnotationSyntax) := do
  let first ← annotationUse within
  return first :: (← whileTrue annotationAhead? (annotationUse within))

/-- Modifiers and annotations; only the annotations are kept. -/
def declarationModifiers : Parser (List AnnotationSyntax) := do
  let found ← repeatSome do
    if ← skip? [TokenKind.modifier] then return some none
    else if ← annotationAhead? then return some (some (← annotationUse within))
    else return none
  return found.filterMap id

/-- The modifiers of a variable. -/
def variableModifiers : Parser Unit :=
  discard (repeatSome do
    if ← skip? ["final"] then return some ()
    else if ← annotationAhead? then
      discard (annotationUse within)
      return some ()
    else return none)

/-- The array of an annotation argument. -/
def elementArray : Parser Expression := do
  skip [openBrace]
  if ← skip? [closeBrace] then return .emptyBraces
  let first ← within.elementValue
  let more ← whileTrue (return !((← next? [closeBrace]) || (← next? [",", closeBrace]))) do
    skip [","]
    within.elementValue
  discard (skip? [","])
  skip [closeBrace]
  return .elements (first :: more)

/-- A parameter with its modifiers. -/
def parameter : Parser Parameter := do
  variableModifiers within
  let declared ← type
  let variadic ← skip? ["..."]
  discard identifier
  let more ← dimensions
  return ⟨some { declared with dimensions := declared.dimensions + more }, variadic⟩

/-- At most `fuel` parameters with commas between them; nothing follows a variadic one. -/
def parametersUpTo : Nat → Parser (List Parameter)
  | 0 => throw .exhausted
  | fuel + 1 => do
    let first ← parameter within
    if first.variadic then return [first]
    else if ← skip? [","] then return first :: (← parametersUpTo fuel)
    else return [first]

/-- The parameters of a method in parentheses. -/
def parameters : Parser (List Parameter) := do
  skip ["("]
  if ← skip? [")"] then return []
  let found ← parametersUpTo within (← read)
  skip [")"]
  return found

end SpringAudit.Java.Parser

import SpringAudit.Java.Parser.Basic
import SpringAudit.Java.Syntax

/-!
# Types

Type arguments are recognised and dropped.  They are the only recursion here,
and each level of them takes a token, so the number of tokens bounds the depth.
-/

namespace SpringAudit.Java.Parser

/-- A type argument, given the parser of reference types inside it. -/
def typeArgument (referenceType : Parser TypeRef) : Parser Unit := do
  if ← skip? ["?"] then
    unless ← nextIn? ["extends", "super"] do
      return
    discard takeAny
  if ← skip? [TokenKind.basicType] then
    skip ["[", "]"]
  else
    discard referenceType
  discard dimensions

/-- Type arguments in angle brackets. -/
def typeArgumentList (referenceType : Parser TypeRef) : Parser Unit := do
  skip ["<"]
  discard (separatedThrough "," ">" (typeArgument referenceType))

/-- One piece of a dotted type name, with its arguments. -/
def namePiece (referenceType : Parser TypeRef) : Parser Text := do
  let name ← identifier
  onlyIf (next? ["<"]) (typeArgumentList referenceType)
  return name

/-- A class or interface type without dimensions, nested at most `depth` levels. -/
def referenceTypeUpTo : Nat → Parser TypeRef
  | 0 => throw .exhausted
  | depth + 1 => do
    let name ← namePiece (referenceTypeUpTo depth)
    let inner ← whileTrue (skip? ["."]) (namePiece (referenceTypeUpTo depth))
    return ⟨name, inner, 0⟩

/-- A class or interface type without dimensions. -/
def referenceType : Parser TypeRef := do
  referenceTypeUpTo (← read)

/-- A primitive type without dimensions. -/
def basicType : Parser TypeRef := do
  return ⟨← take TokenKind.basicType, [], 0⟩

/-- Any type with its dimensions. -/
def type : Parser TypeRef := do
  let base ←
    if ← next? [TokenKind.basicType] then basicType
    else if ← next? [TokenKind.identifier] then referenceType
    else mismatch "Expected type"
  return { base with dimensions := ← dimensions }

/-- One type of a list; a primitive type needs dimensions there. -/
def listedType : Parser Unit := do
  if ← skip? [TokenKind.basicType] then
    skip ["[", "]"]
  else
    discard referenceType
  discard dimensions

/-- A list of types. -/
def typeList : Parser Unit :=
  discard (separated "," listedType)

/-- Type arguments without wildcards. -/
def plainTypeArguments : Parser Unit := do
  skip ["<"]
  typeList
  skip [">"]

/-- Type arguments without wildcards, or an empty pair of angle brackets. -/
def plainTypeArgumentsOrDiamond : Parser Unit := do
  unless ← skip? ["<", ">"] do
    plainTypeArguments

/-- The name of a class to be created. -/
def createdName : Parser Unit :=
  discard (separated "." do
    discard identifier
    if ← next? ["<"] then
      unless ← skip? ["<", ">"] do
        typeArgumentList referenceType)

/-- A type parameter with its bounds. -/
def typeParameter : Parser Unit := do
  discard identifier
  onlyIf (skip? ["extends"]) (separated "&" referenceType)

/-- Type parameters in angle brackets. -/
def typeParameters : Parser Unit := do
  skip ["<"]
  discard (separatedThrough "," ">" typeParameter)

end SpringAudit.Java.Parser

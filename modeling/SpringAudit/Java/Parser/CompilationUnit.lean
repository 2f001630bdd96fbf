import SpringAudit.Java.Lexer
import SpringAudit.Java.Parser.Declaration

/-!
# Source files

The package and the imports come before the type declarations.  When the tokens
end too early, a type declaration reports it, but in the package and the imports
reading just stops.
-/

namespace SpringAudit.Java

/-- The phrases one level further out. -/
def Phrases.extend (within : Phrases) : Phrases where
  expression := Parser.expression within
  conditional := Parser.conditional within
  operand := Parser.operand within
  elementValue := Parser.elementValue within
  initializer := Parser.initializer within
  block := Parser.block within
  statement := Parser.statement within
  blockStatement := Parser.blockStatement within
  classBody := Parser.classBody within
  classMember := Parser.classMember within
  interfaceBody := Parser.interfaceBody within
  enumBody := Parser.enumBody within
  annotationTypeBody := Parser.annotationTypeBody within

/-- The phrases down to a number of levels. -/
def Phrases.upTo : Nat → Phrases
  | 0 => .exhausted
  | depth + 1 => (Phrases.upTo depth).extend

namespace Parser

variable (within : Phrases)

/-- The package declaration, if there is one.  Annotations that no package follows are left
to the first type declaration, from where an attempt that they made would resume. -/
def package? : Parser (Option Text) := do
  mark
  onlyIf annotationAhead? (annotations within)
  if ← skip? ["package"] then
    let name ← qualifiedName
    skip [";"]
    return some name
  else
    goBack
    return none

/-- The pieces of an imported name up to the semicolon, at most `fuel` of them, and whether
they end in a wildcard. -/
def importPieces : Nat → Parser (List Text × Bool)
  | 0 => throw .exhausted
  | fuel + 1 => do
    let piece ← identifier
    if ← skip? ["."] then
      if ← skip? ["*"] then
        skip [";"]
        return ([piece], true)
      else
        let (pieces, isWildcard) ← importPieces fuel
        return (piece :: pieces, isWildcard)
    else
      skip [";"]
      return ([piece], false)

/-- An import declaration. -/
def importDeclaration : Parser Import := do
  skip ["import"]
  let isStatic ← skip? ["static"]
  let (pieces, isWildcard) ← importPieces (← read)
  return ⟨Text.join "." pieces, isStatic, isWildcard⟩

/-- A type declaration at the outermost level; a lone semicolon is none.  The end of the
tokens is a mismatch here. -/
def outerDeclaration : Parser (Option Declaration) := fun bound here =>
  let phrase : Parser (Option Declaration) := do
    if ← skip? [";"] then return none
    else return some (← typeDeclaration within)
  match phrase bound here with
  | .error .endOfTokens => .error (.mismatch "Unexpected end of input" here.resume)
  | result => result

/-- A whole source file. -/
def compilationUnit : Parser CompilationUnit := do
  let package ← package? within
  let imports ← whileTrue (next? ["import"]) importDeclaration
  let declarations ← whileTrue (return (← peek).isSome) (outerDeclaration within)
  return ⟨package, imports, declarations.filterMap id⟩

end Parser

/-- The failure of reading that a parse failure means. -/
def ParseFailure.toSourceFailure : ParseFailure → SourceFailure
  | .mismatch description _ => .syntactic description
  | .endOfTokens => .abandoned
  | .openOperand => .abandoned
  | .exhausted => .abandoned

/-- The syntax tree of a token sequence.  A phrase hands its tokens on to at most one other
phrase before it takes a token, so twice as many levels as tokens suffice. -/
def CompilationUnit.ofTokens? (tokens : List Token) : Except SourceFailure CompilationUnit :=
  let bound := tokens.length + 1
  match Parser.compilationUnit (.upTo (2 * bound)) bound ⟨tokens, tokens⟩ with
  | .ok (tree, _) => .ok tree
  | .error failure => .error failure.toSourceFailure

/-- The syntax tree of a source text. -/
def CompilationUnit.parse (source : Text) : Except SourceFailure CompilationUnit := do
  CompilationUnit.ofTokens? (← tokenize source)

end SpringAudit.Java

import SpringAudit.Java.Parser.Type

/-!
# The phrases that contain each other

Expressions, statements, annotations and declarations contain each other to any
depth.  A grammar rule below is therefore written over the parsers of the
phrases one level further in, which this record collects; the knot is tied once,
for a number of levels that the tokens bound.
-/

namespace SpringAudit.Java

/-- The parsers of the phrases that a rule may contain. -/
structure Phrases where
  /-- An expression, assignments included. -/
  expression : Parser Expression
  /-- An expression without assignment. -/
  conditional : Parser Expression
  /-- An operand of an infix operator. -/
  operand : Parser Expression
  /-- The value of an annotation argument. -/
  elementValue : Parser Expression
  /-- The initial value of a variable. -/
  initializer : Parser Unit
  block : Parser Unit
  statement : Parser Unit
  /-- A statement or local declaration. -/
  blockStatement : Parser Unit
  classBody : Parser (List Declaration)
  /-- A member of a class or enum body; a lone semicolon is none. -/
  classMember : Parser (Option Declaration)
  interfaceBody : Parser (List Declaration)
  enumBody : Parser (List Declaration)
  annotationTypeBody : Parser (List Declaration)

/-- The phrases with no level left. -/
def Phrases.exhausted : Phrases where
  expression := throw .exhausted
  conditional := throw .exhausted
  operand := throw .exhausted
  elementValue := throw .exhausted
  initializer := throw .exhausted
  block := throw .exhausted
  statement := throw .exhausted
  blockStatement := throw .exhausted
  classBody := throw .exhausted
  classMember := throw .exhausted
  interfaceBody := throw .exhausted
  enumBody := throw .exhausted
  annotationTypeBody := throw .exhausted

end SpringAudit.Java

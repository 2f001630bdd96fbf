import SpringAudit.Java.Syntax
import SpringAudit.Source.StringLiteral
import SpringAudit.Source.Value

/-!
# Values of expressions

A string literal and a chain of string literals joined by `+` are constant
strings; arrays are lists and plain names are constants.  Any other expression
is kept as text, which is its source form as far as the syntax tree has it.
-/

namespace SpringAudit

open Java

mutual

/-- The source form of an expression, or the name of its kind. -/
def renderExpression : Expression → Text
  | .missing => []
  | .literal spelling prefixes _ => prefixes.flatten ++ spelling
  | .reference qualifier member _ _ => qualify qualifier member
  | .call qualifier member arguments _ _ =>
    qualify qualifier member ++ "(" ++ Text.join ", " (renderExpressions arguments) ++ ")"
  | .binary operator left right =>
    renderExpression left ++ " " ++ operator ++ " " ++ renderExpression right
  | .elements items => "\x7b" ++ Text.join ", " (renderExpressions items) ++ "\x7d"
  | .arrayInitializer _ => "ArrayInitializer"
  | .emptyBraces => "list"
  | .annotationUse name => "@" ++ name
  | .other kind => kind

/-- The source forms of several expressions. -/
def renderExpressions : List Expression → List Text
  | [] => []
  | e :: rest => renderExpression e :: renderExpressions rest

end

/-- The constant string that a chain of literals denotes. -/
def foldConcatenation : Expression → Except MalformedEscape (Option Text)
  | .literal spelling _ _ => stringValue? spelling
  | .binary operator left right =>
    if operator = "+" then do
      let first ← foldConcatenation left
      let second ← foldConcatenation right
      return (first.bind fun s => second.map fun t => s ++ t)
    else .ok none
  | _ => .ok none

mutual

/-- The value that an expression has as annotation argument. -/
def ArgumentValue.ofExpression : Expression → Except MalformedEscape ArgumentValue
  | .literal spelling prefixes selectors => do
    match ← stringValue? spelling with
    | some text =>
      if prefixes.isEmpty then return .literal text
      else return .expression (renderExpression (.literal spelling prefixes selectors))
    | none => return .expression (renderExpression (.literal spelling prefixes selectors))
  | .elements items => do
    return .list (← ArgumentValue.ofExpressions items)
  | .arrayInitializer items => do
    return .list (← ArgumentValue.ofExpressions items)
  | .reference qualifier member prefixes selectors =>
    match selectors with
    | [] => .ok (.constant qualifier member)
    | _ :: _ => .ok (.expression (renderExpression (.reference qualifier member prefixes [])))
  | .binary operator left right => do
    match ← foldConcatenation (.binary operator left right) with
    | some text => return .literal text
    | none => return .expression (renderExpression (.binary operator left right))
  | e => .ok (.expression (renderExpression e))

/-- The values of several expressions. -/
def ArgumentValue.ofExpressions : List Expression → Except MalformedEscape (List ArgumentValue)
  | [] => .ok []
  | e :: rest => do
    let value ← ArgumentValue.ofExpression e
    return value :: (← ArgumentValue.ofExpressions rest)

end

end SpringAudit

import SpringAudit.Text.Quoted

/-!
# Values of annotation arguments

A value is a constant string, an array, a reference to a constant or else the
text of an expression that is not evaluated.
-/

namespace SpringAudit

/-- The value of an annotation argument. -/
inductive ArgumentValue where
  | absent
  | literal (text : Text)
  | list (items : List ArgumentValue)
  | constant (qualifier name : Text)
  | expression (text : Text)
  deriving Inhabited

/-- A name after its qualifier, if that is not empty. -/
def qualify (qualifier name : Text) : Text :=
  if qualifier.isEmpty then name else qualifier ++ "." ++ name

namespace ArgumentValue

mutual

/-- The form of a value in messages. -/
def describe : ArgumentValue → Text
  | .absent => "<absent>"
  | .literal text => text.quoted
  | .list items => "\x7b" ++ Text.join ", " (describeAll items) ++ "\x7d"
  | .constant qualifier name => qualify qualifier name
  | .expression text => text

/-- The forms of several values. -/
def describeAll : List ArgumentValue → List Text
  | [] => []
  | item :: items => item.describe :: describeAll items

end

/-- The text of a guard expression: a constant string stands for itself. -/
def guardText : ArgumentValue → Text
  | .absent => []
  | .literal text => text
  | value => value.describe

end ArgumentValue

end SpringAudit

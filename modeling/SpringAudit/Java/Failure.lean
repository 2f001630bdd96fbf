import SpringAudit.Text.Basic

/-!
# Why Java source text cannot be read

Reading fails in the lexer with a place, in the parser with a description only,
or it stops with neither.  The last case is kept apart, because such a failure
is not one that a scan of many files reports and passes over.
-/

namespace SpringAudit.Java

/-- The faults that the lexer finds. -/
inductive LexicalFault where
  | invalidUnicodeEscape
  | unknownCharacter
  | unterminatedString
  | illegalEscape
  | unterminatedComment
  | hexFloatWithoutExponent
  deriving DecidableEq

/-- The wording of a lexical fault. -/
def LexicalFault.description : LexicalFault → Text
  | .invalidUnicodeEscape => "Invalid unicode escape"
  | .unknownCharacter => "Could not process token"
  | .unterminatedString => "Unterminated character/string literal"
  | .illegalEscape => "Illegal escape character"
  | .unterminatedComment => "Unterminated block comment"
  | .hexFloatWithoutExponent => "Invalid hex float literal"

/-- A lexical fault with the offending characters, the line number and the line. -/
structure LexicalError where
  fault : LexicalFault
  shown : Text
  line : Nat
  lineText : Text
  deriving DecidableEq

/-- The wording of a lexical error. -/
def LexicalError.message (e : LexicalError) : Text :=
  e.fault.description ++ " at \"" ++ e.shown ++ "\", line " ++ Text.ofNat e.line ++ ": " ++
    e.lineText

/-- Why a source text has no syntax tree. -/
inductive SourceFailure where
  /-- The text is not a sequence of tokens. -/
  | lexical (error : LexicalError)
  /-- The tokens are not a compilation unit. -/
  | syntactic (description : Text)
  /-- Reading stopped at a place where neither rule applies. -/
  | abandoned
  deriving DecidableEq

/-- The line around a position, without surrounding blanks.  A last line that has no line
end loses its last character. -/
def lineAround (source : Text) (position : Nat) : Text :=
  let isInLine (c : CodePoint) : Bool := decide (c ≠ '\n')
  let start := ((source.take position).reverse.takeWhile isInLine).reverse
  let tail := source.drop position
  let line :=
    if tail.contains '\n' then start ++ tail.takeWhile isInLine
    else (start ++ tail).dropLast
  Text.strip line

end SpringAudit.Java

import SpringAudit.Text.Basic

/-!
# Why a document is not well-formed

An error has a cause and a place.  While a document is read the place is what is
left of the text; a line and a column are made of it in the end.
-/

namespace SpringAudit.Xml

/-- The causes for which a document is refused. -/
inductive Cause where
  | malformedMarkup
  | noElement
  | invalidToken
  | unclosedToken
  | mismatchedTag
  | duplicateAttribute
  | textAfterRoot
  | misplacedParameterEntity
  | undefinedEntity (name : Text)
  | undeclaredEntity
  | recursiveEntity
  | unbalancedEntity
  | invalidCharacterNumber
  | unparsedEntity
  | externalEntityInAttribute
  | misplacedDeclaration
  | incorrectEncoding
  | unusableEncoding
  | unclosedCdata
  | unboundPrefix
  | undeclaredPrefix
  | malformedDeclaration
  | illegalPublicId
  | reservedXmlPrefix
  | reservedXmlnsPrefix
  | reservedNamespace
  deriving DecidableEq

/-- The wording of a cause. -/
def Cause.description : Cause → Text
  | .malformedMarkup => "syntax error"
  | .noElement => "no element found"
  | .invalidToken => "not well-formed (invalid token)"
  | .unclosedToken => "unclosed token"
  | .mismatchedTag => "mismatched tag"
  | .duplicateAttribute => "duplicate attribute"
  | .textAfterRoot => "junk after document element"
  | .misplacedParameterEntity => "illegal parameter entity reference"
  | .undefinedEntity name => "undefined entity &" ++ name ++ ";"
  | .undeclaredEntity => "undefined entity"
  | .recursiveEntity => "recursive entity reference"
  | .unbalancedEntity => "asynchronous entity"
  | .invalidCharacterNumber => "reference to invalid character number"
  | .unparsedEntity => "reference to binary entity"
  | .externalEntityInAttribute => "reference to external entity in attribute"
  | .misplacedDeclaration => "XML or text declaration not at start of entity"
  | .incorrectEncoding => "encoding specified in XML declaration is incorrect"
  | .unusableEncoding => "unknown encoding"
  | .unclosedCdata => "unclosed CDATA section"
  | .unboundPrefix => "unbound prefix"
  | .undeclaredPrefix => "must not undeclare prefix"
  | .malformedDeclaration => "XML declaration not well-formed"
  | .illegalPublicId => "illegal character(s) in public id"
  | .reservedXmlPrefix =>
    "reserved prefix (xml) must not be undeclared or bound to another namespace name"
  | .reservedXmlnsPrefix => "reserved prefix (xmlns) must not be declared or undeclared"
  | .reservedNamespace => "prefix must not be bound to one of the reserved namespace names"

/-- Whether the cause is that the text ends too early. -/
def Cause.isEarlyEnd : Cause → Bool
  | .noElement => true
  | .unclosedToken => true
  | .unclosedCdata => true
  | _ => false

/-- A cause with what is left of the text at its place. -/
structure ReadFault where
  cause : Cause
  rest : Text

/-- A cause with its place in lines and columns. -/
structure Error where
  cause : Cause
  line : Nat
  column : Nat
  deriving DecidableEq

/-- The wording of an error. -/
def Error.message (e : Error) : Text :=
  e.cause.description ++ ": line " ++ Text.ofNat e.line ++ ", column " ++ Text.ofNat e.column

/-- The error at what is left of a document.  Lines count from one and columns from zero. -/
def ReadFault.locate (document : Text) (fault : ReadFault) : Error :=
  let read := document.take (document.length - fault.rest.length)
  ⟨fault.cause, read.count (CodePoint.ofChar '\n') + 1,
    (read.reverse.takeWhile fun c : CodePoint => decide (c ≠ '\n')).length⟩

/-- The result of reading with a fault. -/
abbrev Reading (α : Type) := Except ReadFault α

/-- The failure of reading at a place. -/
def failAt {α : Type} (cause : Cause) (rest : Text) : Reading α :=
  .error ⟨cause, rest⟩

end SpringAudit.Xml

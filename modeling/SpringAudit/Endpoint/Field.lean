import SpringAudit.Endpoint.Basic

/-!
# Fields of endpoint records

A record of an endpoint has six text fields; the two first must be given and the
others default to the empty text.  A value that is no text is refused, and a
finished record cannot be changed.
-/

namespace SpringAudit

/-- The fields of a record. -/
inductive Field where
  | url
  | httpMethod
  | preAuthorization
  | postAuthorization
  | preFilter
  | postFilter
  deriving DecidableEq

namespace Field

/-- All fields in the order of their declaration. -/
def all : List Field :=
  [.url, .httpMethod, .preAuthorization, .postAuthorization, .preFilter, .postFilter]

/-- The name of a field. -/
def name : Field → Text
  | .url => "url"
  | .httpMethod => "http_method"
  | .preAuthorization => "pre_authorization"
  | .postAuthorization => "post_authorization"
  | .preFilter => "pre_filter"
  | .postFilter => "post_filter"

/-- Whether a record must give the field. -/
def isRequired : Field → Bool
  | .url => true
  | .httpMethod => true
  | _ => false

/-- The text in a field of an endpoint. -/
def read : Field → Endpoint → Text
  | .url, e => e.url
  | .httpMethod, e => e.httpMethod
  | .preAuthorization, e => e.guards.preAuthorization
  | .postAuthorization, e => e.guards.postAuthorization
  | .preFilter, e => e.guards.preFilter
  | .postFilter, e => e.guards.postFilter

end Field

/-- What is given for a field. -/
inductive FieldInput where
  | absent
  | notText
  | text (value : Text)

/-- Why a field is refused. -/
inductive FieldFault where
  | missing
  | notText
  | frozen
  deriving DecidableEq

/-- The name of a fault. -/
def FieldFault.name : FieldFault → Text
  | .missing => "missing"
  | .notText => "string_type"
  | .frozen => "frozen_instance"

/-- The faults of a record with the names of the fields. -/
abbrev FieldErrors := List (Text × FieldFault)

/-- The message that lists the faults. -/
def FieldErrors.message (errors : FieldErrors) : Text :=
  Text.join "," (errors.map fun (name, fault) => name ++ ":" ++ fault.name)

/-- The fault of one field, if there is one. -/
def fieldFault? (input : Field → FieldInput) (field : Field) : Option (Text × FieldFault) :=
  match input field with
  | .text _ => none
  | .notText => some (field.name, .notText)
  | .absent => if field.isRequired then some (field.name, .missing) else none

/-- The text of a field; one that is not given is empty. -/
def fieldText (input : Field → FieldInput) (field : Field) : Text :=
  match input field with
  | .text value => value
  | _ => []

/-- The endpoint with given fields, or the faults in the order of the fields. -/
def Endpoint.ofFields (input : Field → FieldInput) : Except FieldErrors Endpoint :=
  let text := fieldText input
  match Field.all.filterMap (fieldFault? input) with
  | [] =>
    .ok ⟨text .url, text .httpMethod,
      ⟨text .preAuthorization, text .postAuthorization, text .preFilter, text .postFilter⟩⟩
  | errors => .error errors

/-- Writing to a named part of a finished record is always refused. -/
def Endpoint.assign (_ : Endpoint) (name : Text) : Except FieldErrors Endpoint :=
  .error [(name, .frozen)]

end SpringAudit

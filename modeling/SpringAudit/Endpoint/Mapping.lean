import SpringAudit.Diagnostic
import SpringAudit.Endpoint.Basic
import SpringAudit.Source.Model

/-!
# From mapping annotations to endpoints

A mapping annotation stands for every pair of its URLs and HTTP methods.  An
argument of an unexpected form is an error, and then the annotation stands for
nothing; the elements of an array of URLs that are no literals are left out.
-/

namespace SpringAudit

/-- Why an argument of a mapping annotation has no meaning. -/
inductive ResolutionError where
  | invalidUrl (value : ArgumentValue)
  | unexpectedMethod (value : ArgumentValue)

namespace ResolutionError

/-- The kind of problem. -/
def kind : ResolutionError → ProblemKind
  | .invalidUrl _ => .invalidArgument
  | .unexpectedMethod _ => .unexpectedMethod

/-- The wording of the error. -/
def message : ResolutionError → Text
  | .invalidUrl value =>
    "The value passed to request mapping is invalid: " ++ value.describe
  | .unexpectedMethod value => "Unexpected request method: " ++ value.describe

/-- The diagnostic of the error at an annotation. -/
def diagnostic (e : ResolutionError) (a : AnnotationUse) : Diagnostic :=
  ⟨a.path, e.message, e.kind⟩

end ResolutionError

namespace ArgumentValue

/-- The text of a literal. -/
def literal? : ArgumentValue → Option Text
  | .literal text => some text
  | _ => none

/-- The URLs that a value gives; none are given by its absence and by an empty array. -/
def urls? : ArgumentValue → Except ResolutionError (Option (List Text))
  | .absent => .ok none
  | .literal text => .ok (some [text])
  | .list [] => .ok none
  | .list items => .ok (some (items.filterMap literal?))
  | value => .error (.invalidUrl value)

/-- The HTTP method that a value gives; of an array the first element counts. -/
def httpMethod? : ArgumentValue → Except ResolutionError (Option Text)
  | .absent => .ok none
  | .constant _ name => .ok (some name)
  | .list [] => .ok none
  | .list (.constant _ name :: _) => .ok (some name)
  | .list (first :: _) => .error (.unexpectedMethod first)
  | value => .error (.unexpectedMethod value)

end ArgumentValue

namespace AnnotationUse

/-- The argument with the URLs, under either of its names. -/
def urlArgument (a : AnnotationUse) : ArgumentValue :=
  match a.argument "value" with
  | .absent => a.argument "path"
  | value => value

/-- The URLs of a mapping; the empty one if none are given. -/
def urls (a : AnnotationUse) : Except ResolutionError (List Text) := do
  return (← a.urlArgument.urls?).getD [[]]

/-- The HTTP methods of a mapping whose marker may fix them. -/
def httpMethods (a : AnnotationUse) : Option Text → Except ResolutionError (List Text)
  | some fixed => .ok [fixed]
  | none => do
    match ← (a.argument "method").httpMethod? with
    | some found => return [found]
    | none => return defaultHttpMethods

/-- The endpoints of a mapping: for each URL one for each HTTP method. -/
def endpoints (a : AnnotationUse) (fixed : Option Text) (guards : Guards) :
    Except ResolutionError (List Endpoint) := do
  let urls ← a.urls
  let methods ← a.httpMethods fixed
  return urls.flatMap fun url => methods.map fun method => ⟨url, method, guards⟩

/-- The kind and the text of a guard annotation. -/
def guard? (a : AnnotationUse) : Option (GuardKind × Text) :=
  match a.marker? with
  | some (.guard kind) => some (kind, (a.argument "value").guardText)
  | _ => none

end AnnotationUse

namespace AnnotatedMethod

/-- The guards by kind in the order of their first occurrence; a repeated one overwrites. -/
def guardTable (m : AnnotatedMethod) : OrderedMap GuardKind Text :=
  .ofList (m.annotations.filterMap AnnotationUse.guard?)

/-- The guards of the method. -/
def guards (m : AnnotatedMethod) : Guards :=
  .ofKinds fun kind => (m.guardTable.get? kind).getD []

end AnnotatedMethod

/-- What reading the annotations of a method has given so far. -/
structure Composition where
  endpoints : List Endpoint
  /-- The diagnostics, those found before the method included. -/
  diagnostics : List Diagnostic

/-- Reads one annotation of a method with given guards.  A faulty mapping is reported and
gives no endpoint; other annotations are passed over. -/
def Composition.read (guards : Guards) (before : Composition) (a : AnnotationUse) :
    Composition :=
  match a.marker? with
  | some (.route fixed) =>
    match a.endpoints fixed guards with
    | .ok found => { before with endpoints := before.endpoints ++ found }
    | .error e => { before with diagnostics := before.diagnostics ++ [e.diagnostic a] }
  | _ => before

namespace AnnotatedMethod

/-- Reads the annotations of the method one after another. -/
def compose (m : AnnotatedMethod) (diagnostics : List Diagnostic) : Composition :=
  m.annotations.foldl (Composition.read m.guards) ⟨[], diagnostics⟩

/-- The endpoints of the method, before the prefixes of its class. -/
def endpoints (m : AnnotatedMethod) : List Endpoint :=
  (m.compose []).endpoints

/-- The diagnostics of the method's mappings. -/
def problems (m : AnnotatedMethod) : List Diagnostic :=
  (m.compose []).diagnostics

end AnnotatedMethod

end SpringAudit

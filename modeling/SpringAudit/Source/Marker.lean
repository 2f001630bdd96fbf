import SpringAudit.Text.Basic

/-!
# Annotations that mark controllers, routes and guards

An annotation counts by its simple name alone.
-/

namespace SpringAudit

/-- The kinds of method guards. -/
inductive GuardKind where
  | preAuthorize
  | postAuthorize
  | preFilter
  | postFilter
  deriving DecidableEq

namespace GuardKind

/-- All kinds in the order of their report. -/
def all : List GuardKind :=
  [.preAuthorize, .postAuthorize, .preFilter, .postFilter]

/-- The simple name of the annotation. -/
def name : GuardKind → Text
  | .preAuthorize => "PreAuthorize"
  | .postAuthorize => "PostAuthorize"
  | .preFilter => "PreFilter"
  | .postFilter => "PostFilter"

end GuardKind

/-- What an annotation marks. -/
inductive Marker where
  | controller
  /-- A route; the method is missing if an argument of the annotation tells it. -/
  | route (httpMethod : Option Text)
  | guard (kind : GuardKind)
  deriving DecidableEq

namespace Marker

/-- The annotation of a route whose methods are an argument. -/
def requestMapping : Text := "RequestMapping"

/-- The annotations of controller classes. -/
def controllers : List (Text × Marker) :=
  [("Controller", .controller), ("RestController", .controller)]

/-- The annotations of routes. -/
def routes : List (Text × Marker) :=
  [(requestMapping, .route none), ("GetMapping", .route (some "GET")),
    ("PostMapping", .route (some "POST")), ("PutMapping", .route (some "PUT")),
    ("DeleteMapping", .route (some "DELETE")), ("PatchMapping", .route (some "PATCH"))]

/-- The annotations of guards. -/
def guards : List (Text × Marker) :=
  GuardKind.all.map fun kind => (kind.name, .guard kind)

/-- The simple names that mark a controller. -/
def controllerNames : List Text := controllers.map Prod.fst

/-- The simple names that mark a route. -/
def routeNames : List Text := routes.map Prod.fst

/-- The simple names that mark a guard. -/
def guardNames : List Text := guards.map Prod.fst

/-- What an annotation of a simple name marks, if anything. -/
def ofName? (name : Text) : Option Marker :=
  (controllers ++ routes ++ guards).lookup name

end Marker

end SpringAudit

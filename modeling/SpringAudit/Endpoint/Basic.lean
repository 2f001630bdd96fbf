import SpringAudit.Source.Marker

/-!
# Endpoints

An endpoint is a pair of URL and HTTP method with the guard expressions of its
handler method; an empty expression means that there is no such guard.
-/

namespace SpringAudit

/-- The HTTP methods of a route that names none, in the order of their report. -/
def defaultHttpMethods : List Text :=
  ["GET", "POST", "PUT", "DELETE", "PATCH"]

/-- The guard expressions on a method. -/
structure Guards where
  preAuthorization : Text
  postAuthorization : Text
  preFilter : Text
  postFilter : Text
  deriving DecidableEq

/-- The guards of a method, given the expression of each kind. -/
def Guards.ofKinds (expression : GuardKind → Text) : Guards :=
  ⟨expression .preAuthorize, expression .postAuthorize, expression .preFilter,
    expression .postFilter⟩

/-- Whether there is any guard. -/
def Guards.any (g : Guards) : Bool :=
  [g.preAuthorization, g.postAuthorization, g.preFilter, g.postFilter].any fun t => !t.isEmpty

/-- A URL and an HTTP method with the guards in front of them. -/
structure Endpoint where
  url : Text
  httpMethod : Text
  guards : Guards
  deriving DecidableEq

/-- The key that identifies a URL and an HTTP method. -/
def endpointKey (url httpMethod : Text) : Text :=
  url ++ "|" ++ httpMethod

/-- A URL after a prefix; a slash is put between them unless the URL is empty or has one. -/
def joinUrl (before url : Text) : Text :=
  if url.isEmpty || url.startsWith "/" then before ++ url else before ++ "/" ++ url

namespace Endpoint

/-- The key of the endpoint. -/
def key (e : Endpoint) : Text :=
  endpointKey e.url e.httpMethod

/-- Whether the endpoint has any guard. -/
def isGuarded (e : Endpoint) : Bool :=
  e.guards.any

/-- The endpoint at another URL. -/
def withUrl (e : Endpoint) (url : Text) : Endpoint :=
  { e with url := url }

/-- The endpoint below a URL prefix. -/
def below (before : Text) (e : Endpoint) : Endpoint :=
  e.withUrl (joinUrl before e.url)

/-- The order of reports: by URL, then by HTTP method, both by code points. -/
def reportedBefore (a b : Endpoint) : Bool :=
  if a.url = b.url then a.httpMethod.ble b.httpMethod else a.url.ble b.url

end Endpoint

/-- Endpoints in the order of reports; equal ones keep their places. -/
def sortEndpoints (endpoints : List Endpoint) : List Endpoint :=
  endpoints.mergeSort Endpoint.reportedBefore

/-- The endpoints without any guard. -/
def unguardedEndpoints (endpoints : List Endpoint) : List Endpoint :=
  endpoints.filter fun e => !e.isGuarded

end SpringAudit

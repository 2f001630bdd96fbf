import SpringAudit.Endpoint.Mapping

/-!
# The endpoints of a source tree

Each controller contributes the endpoints of its handlers below each of its URL
prefixes.  A controller whose prefixes cannot be resolved contributes one
diagnostic and nothing else; the prefixes are iterated outside the handlers.
Writing an endpoint to the store replaces one with the same key.
-/

namespace SpringAudit

/-- The endpoints found so far, by their keys. -/
abbrev EndpointStore := OrderedMap Text Endpoint

/-- The store with an endpoint written to its own key. -/
def EndpointStore.add (store : EndpointStore) (e : Endpoint) : EndpointStore :=
  store.insert e.key e

/-- The store with several endpoints written one after another. -/
def EndpointStore.addAll (store : EndpointStore) (endpoints : List Endpoint) : EndpointStore :=
  endpoints.foldl EndpointStore.add store

namespace AnnotatedClass

/-- The URL prefixes of a controller, or the diagnostic of its mapping. -/
def prefixes (c : AnnotatedClass) : Except Diagnostic (List Text) :=
  match c.annotation? Marker.requestMapping with
  | none => .ok [[]]
  | some a => a.urls.mapError (·.diagnostic a)

end AnnotatedClass

/-- The controllers of a model. -/
def SourceModel.controllers (model : SourceModel) : List AnnotatedClass :=
  List.filter AnnotatedClass.isController model

/-- The endpoints of several handlers, each composed once, and the diagnostics after those
found before. -/
def composeAll (diagnostics : List Diagnostic) :
    List AnnotatedMethod → List (List Endpoint) × List Diagnostic
  | [] => ([], diagnostics)
  | m :: rest =>
    let first := m.compose diagnostics
    let (more, all) := composeAll first.diagnostics rest
    (first.endpoints :: more, all)

/-- The store with the endpoints of several handlers written below a URL prefix. -/
def EndpointStore.addBelow (composed : List (List Endpoint)) (store : EndpointStore)
    (before : Text) : EndpointStore :=
  composed.foldl (fun found endpoints => found.addAll (endpoints.map (Endpoint.below before)))
    store

/-- What a run over a model has found, also on its way. -/
structure Extraction where
  store : EndpointStore
  diagnostics : List Diagnostic
  controllers : Nat
  handlerMethods : Nat

namespace Extraction

/-- Whether there is any diagnostic. -/
def failed (e : Extraction) : Bool :=
  !e.diagnostics.isEmpty

/-- Visits a controller.  Its handlers are composed once, however many prefixes there are. -/
def visit (run : Extraction) (c : AnnotatedClass) : Extraction :=
  match c.prefixes with
  | .error problem => { run with diagnostics := run.diagnostics ++ [problem] }
  | .ok found =>
    let (composed, diagnostics) := composeAll run.diagnostics c.handlers
    { run with
      store := found.foldl (EndpointStore.addBelow composed) run.store
      diagnostics := diagnostics
      handlerMethods := run.handlerMethods + composed.length }

end Extraction

/-- Runs over a model, starting from a store and diagnostics. -/
def extract (model : SourceModel) (store : EndpointStore) (diagnostics : List Diagnostic) :
    Extraction :=
  let found := model.controllers
  found.foldl Extraction.visit ⟨store, diagnostics, found.length, 0⟩

end SpringAudit

import SpringAudit.Java.Parser.CompilationUnit
import SpringAudit.Source.Model
import SpringAudit.Source.OfExpression

/-!
# The classes of a source file

The classes are listed in the order of their declaration, each before the types
declared inside it.  Interfaces, enums and annotation types are not listed, but
the classes inside them are.

The signature of a method tells overloaded methods apart by the names and dimensions of
their parameter types; type arguments do not occur in it, and a variadic parameter
counts as an array.
-/

namespace SpringAudit

open Java

/-- The full names that simple names stand for. -/
abbrev ImportTable := OrderedMap Text Text

/-- The table of a list of imports; of several with one simple name the last one counts. -/
def ImportTable.ofImports (imports : List Import) : ImportTable :=
  .ofList ((imports.filter fun i => !i.isStatic && !i.isWildcard).map fun i =>
    (Text.afterLast '.' i.path, i.path))

/-- The arguments of an annotation; a single value is the argument `value`. -/
def argumentsOfBody : AnnotationBody → Except MalformedEscape (OrderedMap Text ArgumentValue)
  | .absent => .ok .empty
  | .single value => do
    return .ofList [("value", ← ArgumentValue.ofExpression value)]
  | .pairs items => do
    let values ← ArgumentValue.ofExpressions (items.map Prod.snd)
    return .ofList ((items.map Prod.fst).zip values)

/-- The text of a type, or a question mark in its place. -/
def typeText : Option TypeRef → Text
  | none => "?"
  | some t => Text.join "." (t.name :: t.inner) ++ Text.repeated t.dimensions "[]"

/-- The text of a parameter in a signature. -/
def parameterText (p : Parameter) : Text :=
  if p.variadic then typeText p.type ++ "[]" else typeText p.type

/-- The signature of a method. -/
def signatureText (name : Text) (parameters : List Parameter) : Text :=
  name ++ "(" ++ Text.join "," (parameters.map parameterText) ++ ")"

/-- An annotation of a declaration with a given path.  A dotted name is taken as it is. -/
def AnnotationUse.ofSyntax (imports : ImportTable) (owner : Text) (a : AnnotationSyntax) :
    Except MalformedEscape AnnotationUse := do
  let simple := Text.afterLast '.' a.name
  let qualified := if a.name.contains '.' then a.name else (imports.get? simple).getD simple
  return ⟨simple, qualified, owner, ← argumentsOfBody a.body⟩

/-- A method of a class. -/
def AnnotatedMethod.ofSyntax (imports : ImportTable) (declaringClass : Text)
    (m : MethodSyntax) : Except MalformedEscape AnnotatedMethod := do
  let signature := signatureText m.name m.parameters
  let annotations ←
    m.annotations.mapM (AnnotationUse.ofSyntax imports (methodPath declaringClass signature))
  return ⟨m.name, signature, declaringClass, annotations⟩

/-- The methods among the members of a type. -/
def methodsAmong (members : List Declaration) : List MethodSyntax :=
  members.filterMap fun
    | .method declaration => some declaration
    | _ => none

/-- A class with its own methods. -/
def AnnotatedClass.ofSyntax (imports : ImportTable) (filePath qualifiedName : Text)
    (annotations : List AnnotationSyntax) (members : List Declaration) :
    Except MalformedEscape AnnotatedClass := do
  let methods ←
    (methodsAmong members).mapM (AnnotatedMethod.ofSyntax imports qualifiedName)
  let found ← annotations.mapM (AnnotationUse.ofSyntax imports qualifiedName)
  return ⟨qualifiedName, filePath, found, methods⟩

mutual

/-- The classes in a declaration within an enclosing package or type. -/
def classesIn (imports : ImportTable) (filePath enclosing : Text) :
    Declaration → Except MalformedEscape (List AnnotatedClass)
  | .type kind name annotations members => do
    let qualified := qualify enclosing name
    let own ←
      if kind = .classType then
        (AnnotatedClass.ofSyntax imports filePath qualified annotations members).map ([·])
      else .ok []
    return own ++ (← classesAmong imports filePath qualified members)
  | .method _ => .ok []
  | .other => .ok []

/-- The classes in several declarations. -/
def classesAmong (imports : ImportTable) (filePath enclosing : Text) :
    List Declaration → Except MalformedEscape (List AnnotatedClass)
  | [] => .ok []
  | declaration :: rest => do
    let first ← classesIn imports filePath enclosing declaration
    return first ++ (← classesAmong imports filePath enclosing rest)

end

/-- The classes of a source file, given its tree. -/
def CompilationUnit.classes (filePath : Text) (tree : CompilationUnit) :
    Except MalformedEscape (List AnnotatedClass) :=
  classesAmong (.ofImports tree.imports) filePath (tree.package.getD []) tree.declarations

/-- The classes of a source text. -/
def classesOfSource (filePath source : Text) : Except SourceFailure (List AnnotatedClass) := do
  let tree ← CompilationUnit.parse source
  match CompilationUnit.classes filePath tree with
  | .ok classes => return classes
  | .error .unicodeWithoutDigits => throw .abandoned

/-- The model of several source texts with their paths; the first failure counts. -/
def SourceModel.ofSources (sources : OrderedMap Text Text) :
    Except SourceFailure SourceModel := do
  let found ← sources.entries.mapM fun (path, source) => classesOfSource path source
  return found.flatten

end SpringAudit

import SpringAudit.OrderedMap
import SpringAudit.Source.Marker
import SpringAudit.Source.Value

/-!
# Annotated classes and methods

The model of a source tree lists its classes with their methods and the
annotations on both.  An annotation knows the path of its owner, so that a
message about it can say where it stands.
-/

namespace SpringAudit

/-- An annotation with its arguments in the order of their names' first occurrence. -/
structure AnnotationUse where
  name : Text
  qualifiedName : Text
  owner : Text
  arguments : OrderedMap Text ArgumentValue

/-- A method with its annotations. -/
structure AnnotatedMethod where
  name : Text
  signature : Text
  declaringClass : Text
  annotations : List AnnotationUse

/-- A class with its annotations and methods. -/
structure AnnotatedClass where
  qualifiedName : Text
  filePath : Text
  annotations : List AnnotationUse
  methods : List AnnotatedMethod

/-- The path of a method within its class. -/
def methodPath (declaringClass signature : Text) : Text :=
  declaringClass ++ "#" ++ signature

namespace AnnotationUse

/-- The value of an argument, or its absence. -/
def argument (a : AnnotationUse) (name : Text) : ArgumentValue :=
  (a.arguments.get? name).getD .absent

/-- The place of the annotation in messages. -/
def path (a : AnnotationUse) : Text :=
  a.owner ++ "@" ++ a.qualifiedName

/-- What the annotation marks, if anything. -/
def marker? (a : AnnotationUse) : Option Marker :=
  Marker.ofName? a.name

/-- Whether the annotation has one of the simple names. -/
def isNamed (names : List Text) (a : AnnotationUse) : Bool :=
  names.contains a.name

end AnnotationUse

namespace AnnotatedMethod

/-- The path of the method. -/
def path (m : AnnotatedMethod) : Text :=
  methodPath m.declaringClass m.signature

/-- Whether some annotation has one of the simple names. -/
def hasAny (names : List Text) (m : AnnotatedMethod) : Bool :=
  m.annotations.any (·.isNamed names)

end AnnotatedMethod

namespace AnnotatedClass

/-- The path of the class. -/
def path (c : AnnotatedClass) : Text :=
  c.qualifiedName

/-- Whether some annotation has one of the simple names. -/
def hasAny (names : List Text) (c : AnnotatedClass) : Bool :=
  c.annotations.any (·.isNamed names)

/-- The first annotation with a simple name. -/
def annotation? (c : AnnotatedClass) (name : Text) : Option AnnotationUse :=
  c.annotations.find? fun a => decide (a.name = name)

/-- The methods with an annotation of one of the simple names. -/
def methodsWithAny (c : AnnotatedClass) (names : List Text) : List AnnotatedMethod :=
  c.methods.filter (·.hasAny names)

/-- Whether the class is a controller. -/
def isController (c : AnnotatedClass) : Bool :=
  c.hasAny Marker.controllerNames

/-- The methods that declare a route. -/
def handlers (c : AnnotatedClass) : List AnnotatedMethod :=
  c.methodsWithAny Marker.routeNames

end AnnotatedClass

/-- The model of a source tree. -/
abbrev SourceModel := List AnnotatedClass

/-- The classes with an annotation of one of the simple names. -/
def SourceModel.classesWithAny (model : SourceModel) (names : List Text) : SourceModel :=
  model.filter (·.hasAny names)

end SpringAudit

import SpringAudit.Text.Basic

/-!
# Syntax trees

A tree keeps what an audit of annotations needs: type declarations with their
methods, the annotations on both, and the expressions inside annotations.
Fields, constructors and bodies are recognised but not kept, and an expression
of a kind that no audit looks into keeps the name of its kind only.
-/

namespace SpringAudit.Java

/-- An expression, or another value of an annotation argument. -/
inductive Expression where
  /-- No expression. -/
  | missing
  /-- A literal as it is spelled, with prefix operators and selectors after it. -/
  | literal (spelling : Text) (prefixes : List Text) (selectors : List Expression)
  /-- A name; the qualifier is empty if the name is simple. -/
  | reference (qualifier member : Text) (prefixes : List Text) (selectors : List Expression)
  /-- A method call. -/
  | call (qualifier member : Text) (arguments : List Expression) (prefixes : List Text)
      (selectors : List Expression)
  | binary (operator : Text) (left right : Expression)
  /-- The array of an annotation argument, with at least one element in source text. -/
  | elements (items : List Expression)
  /-- The array of a variable initialiser. -/
  | arrayInitializer (items : List Expression)
  /-- A pair of braces with nothing between them, as annotation argument. -/
  | emptyBraces
  /-- A nested annotation. -/
  | annotationUse (name : Text)
  /-- An expression of any other kind. -/
  | other (kind : Text)
  deriving Inhabited

/-- What stands between the parentheses of an annotation. -/
inductive AnnotationBody where
  | absent
  | pairs (items : List (Text × Expression))
  | single (value : Expression)

/-- An annotation as it is written. -/
structure AnnotationSyntax where
  name : Text
  body : AnnotationBody

/-- A type: its dotted name in pieces and its array dimensions. -/
structure TypeRef where
  name : Text
  inner : List Text
  dimensions : Nat

/-- A parameter of a method. -/
structure Parameter where
  type : Option TypeRef
  variadic : Bool

/-- A method as it is written. -/
structure MethodSyntax where
  name : Text
  parameters : List Parameter
  annotations : List AnnotationSyntax

/-- The kinds of type declarations. -/
inductive TypeKind where
  | classType
  | enumType
  | interfaceType
  | annotationType
  deriving DecidableEq

/-- A declaration in a compilation unit or in the body of a type. -/
inductive Declaration where
  | type (kind : TypeKind) (name : Text) (annotations : List AnnotationSyntax)
      (members : List Declaration)
  | method (declaration : MethodSyntax)
  /-- A field, a constructor or an initialiser. -/
  | other
  deriving Inhabited

/-- An import of one or more names. -/
structure Import where
  path : Text
  isStatic : Bool
  isWildcard : Bool

/-- The syntax tree of a source file. -/
structure CompilationUnit where
  package : Option Text
  imports : List Import
  declarations : List Declaration

end SpringAudit.Java

import SpringAudit.Text.Basic

/-!
# Tokens of Java source text

A token is a spelling with its class.  Words that newer versions of the language
reserve in some places only (such as `var`, `record` and `yield`) are plain
identifiers here.
-/

namespace SpringAudit.Java

/-- The classes of tokens.  Modifiers and names of basic types are keywords too. -/
inductive TokenKind where
  | separator
  | atSign
  | operator
  | keyword
  | modifier
  | basicType
  | identifier
  | literal
  deriving DecidableEq

/-- A token: its class and its spelling; a string keeps its quotation marks. -/
structure Token where
  kind : TokenKind
  text : Text
  deriving DecidableEq

/-- Whether a token has a given spelling. -/
def Token.spells (token : Token) (spelling : Text) : Bool :=
  token.text = spelling

/-- The reserved words that are neither modifiers nor basic types. -/
def keywords : List Text :=
  ["assert", "break", "case", "catch", "class", "const", "continue", "do", "else", "enum",
    "extends", "finally", "for", "goto", "if", "implements", "import", "instanceof",
    "interface", "new", "package", "return", "super", "switch", "this", "throw", "throws",
    "try", "void", "while"].map Text.ofString

/-- The reserved words that may stand before a declaration. -/
def modifiers : List Text :=
  ["abstract", "default", "final", "native", "private", "protected", "public", "static",
    "strictfp", "synchronized", "transient", "volatile"].map Text.ofString

/-- The names of the primitive types. -/
def basicTypes : List Text :=
  ["boolean", "byte", "char", "double", "float", "int", "long", "short"].map Text.ofString

/-- The words that denote a value. -/
def wordLiterals : List Text :=
  ["true", "false", "null"].map Text.ofString

/-- The class of a word. -/
def TokenKind.ofWord (word : Text) : TokenKind :=
  if basicTypes.contains word then .basicType
  else if modifiers.contains word then .modifier
  else if keywords.contains word then .keyword
  else if wordLiterals.contains word then .literal
  else .identifier

/-- The characters that are separators on their own. -/
def separators : Text :=
  "()\x7b\x7d[];,."

/-- The operators, each before those that it begins with.  A shift to the right is
not among them: its signs are separate tokens. -/
def operators : List Text :=
  [">>>=", ">>=", "<<=", "...", "%=", "^=", "|=", "&=", "/=", "*=", "-=", "+=", "<<", "--",
    "++", "||", "&&", "!=", ">=", "<=", "==", "->", "::", "%", "^", "|", "&", "/", "*", "-",
    "+", ":", "?", "~", "!", "<", ">", "="].map Text.ofString

/-- The longest operator that the text starts with. -/
def operatorAt? (t : Text) : Option Text :=
  operators.find? t.startsWith

end SpringAudit.Java

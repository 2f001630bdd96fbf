import SpringAudit.Xml.Markup

/-!
# Entities and the values of attributes

An entity is a name for a text.  References in the value of an attribute are
replaced by what they stand for, also inside of entities, and white space by
single spaces.  What a document type declares is collected in one structure.
-/

namespace SpringAudit.Xml

/-- What an entity stands for. -/
inductive EntityValue where
  | internal (text : Text)
  | external
  | unparsed

/-- What a document type says about an attribute of an element. -/
structure AttributeDeclaration where
  element : Text
  name : Text
  /-- Whether the value is made of words, around and between which white space does not
  count beyond one space. -/
  isTokenized : Bool
  defaultValue : Option Text

/-- What a document type declares. -/
structure Dtd where
  entities : List (Text × EntityValue)
  /-- The attributes; of several declarations of one attribute the first counts. -/
  attributes : List AttributeDeclaration
  /-- Whether declarations may be missing, because some are not read. -/
  isPartial : Bool
  /-- Whether declarations still count. -/
  counts : Bool
  standsAlone : Bool

/-- The declaration of an attribute that counts, if there is one. -/
def Dtd.attribute? (dtd : Dtd) (element name : Text) : Option AttributeDeclaration :=
  dtd.attributes.find? fun a => decide (a.element = element) && decide (a.name = name)

/-- The document type of a document that has none. -/
def Dtd.none (standsAlone : Bool) : Dtd :=
  ⟨[], [], false, true, standsAlone⟩

/-- The text that the value of an entity stands for: references by number are replaced,
those by name are kept.  At most `fuel` parts are read. -/
def entityText (start : Text) : Nat → Text → Reading Text
  | 0, _ => .ok []
  | _ + 1, [] => .ok []
  | fuel + 1, c :: rest =>
    if c = '&' then do
      match ← reference start rest with
      | (.character n, after) =>
        return (← referredCharacter start n) :: (← entityText start fuel after)
      | (.entity name, after) =>
        return "&" ++ name ++ ";" ++ (← entityText start fuel after)
    else if c = '%' then
      match plainName start rest with
      | .ok (_, after) =>
        if after.startsWith ";" then failAt .misplacedParameterEntity start
        else failAt .invalidToken start
      | .error _ => failAt .invalidToken start
    else do
      return c :: (← entityText start fuel rest)

/-- Takes a reference inside a quoted text, whose end is an error; `place` gives the place of
what is left of that text. -/
def quotedReference (place : Text → Text) (t : Text) : Reading (Reference × Text) :=
  (reference [] t).mapError fun fault =>
    ⟨if fault.cause = .unclosedToken then .invalidToken else fault.cause, place fault.rest⟩

/-- Expands the references in the value of an attribute, given the values of entities and
the place of what is left.  At most `fuel` parts are read. -/
def expandValue (entity : Text → Reading Text) (place : Text → Text) : Nat → Text → Reading Text
  | 0, _ => .ok []
  | _ + 1, [] => .ok []
  | fuel + 1, c :: rest =>
    if c = '<' then failAt .invalidToken (place (c :: rest))
    else if c = '&' then do
      match ← quotedReference place rest with
      | (.character n, after) =>
        return (← referredCharacter (place (c :: rest)) n) ::
          (← expandValue entity place fuel after)
      | (.entity name, after) =>
        match predefinedEntities.lookup name with
        | some known => return known :: (← expandValue entity place fuel after)
        | none => return (← entity name) ++ (← expandValue entity place fuel after)
    else do
      return (if isSpace c then (' ' : CodePoint) else c) ::
        (← expandValue entity place fuel rest)

/-- The value of an entity in an attribute, nested at most a number of levels; `entered`
holds the entities that are being expanded. -/
def entityInValue (dtd : Dtd) (start : Text) : Nat → List Text → Text → Reading Text
  | 0, _, _ => failAt .recursiveEntity start
  | depth + 1, entered, name =>
    if entered.contains name then failAt .recursiveEntity start
    else match dtd.entities.lookup name with
      | some (.internal found) =>
        expandValue (entityInValue dtd start depth (name :: entered)) (fun _ => start)
          (found.length + 1) found
      | some .external => failAt .externalEntityInAttribute start
      | some .unparsed => failAt .unparsedEntity start
      | none =>
        if dtd.isPartial && !dtd.standsAlone then .ok [] else failAt .undeclaredEntity start

/-- The words of a text between spaces, joined by single spaces. -/
def joinWords (t : Text) : Text :=
  Text.join " " ((Text.splitOn ' ' t).filter (!·.isEmpty))

/-- The value of an attribute as it counts; `start` is the place of its tag and `after` what
follows the value. -/
def attributeValue (dtd : Dtd) (isTokenized : Bool) (start after written : Text) :
    Reading Text := do
  let value ← expandValue (entityInValue dtd start (dtd.entities.length + 1) []) (· ++ after)
    (written.length + 1) written
  return if isTokenized then joinWords value else value

end SpringAudit.Xml

import SpringAudit.Xml.ContentModel
import SpringAudit.Xml.Entity

/-!
# What comes before the root element

The declaration of a document names its encoding and whether it stands alone.  A
document type may declare entities and attributes; of its other declarations only
the form is looked at.  After a reference to a parameter
entity later declarations do not count, unless the document stands alone.
-/

namespace SpringAudit.Xml

/-- What a document declares about itself. -/
structure DocumentDeclaration where
  encoding : Option Text
  standsAlone : Bool

/-- Takes a name and a quoted value after white space, if there are any. -/
def pseudoAttribute? (t : Text) : Option (Text × Text × Text) := do
  if !startsWithSpace t then none
  else
    let t := afterSpace t
    let name : Text := t.takeWhile isNamePart
    let rest := afterSpace (t.drop name.length)
    if name.isEmpty || !rest.startsWith "=" then none
    else
      match afterSpace (rest.drop 1) with
      | mark :: rest =>
        if mark = '"' ∨ mark = '\'' then
          let isValue (c : CodePoint) : Bool :=
            c.isAsciiLetter || c.isAsciiDigit || ("._-" : Text).contains c
          let value : Text := rest.takeWhile isValue
          match rest.drop value.length with
          | last :: rest => if last = mark then some (name, value, rest) else none
          | [] => none
        else none
      | [] => none

/-- Whether the text starts with an ASCII letter. -/
def startsWithLetter (t : Text) : Bool :=
  t.head?.any CodePoint.isAsciiLetter

/-- Takes what a declaration says about standing alone, and its end. -/
def standaloneRest (encoding : Option Text) (start t : Text) :
    Reading (DocumentDeclaration × Text) :=
  match pseudoAttribute? t with
  | some (name, value, rest) =>
    if name = ("standalone" : Text) ∧ (value = ("yes" : Text) ∨ value = ("no" : Text)) ∧
        (afterSpace rest).startsWith "?>" then
      .ok (⟨encoding, decide (value = ("yes" : Text))⟩, (afterSpace rest).drop 2)
    else failAt .malformedDeclaration start
  | none =>
    if (afterSpace t).startsWith "?>" then .ok (⟨encoding, false⟩, (afterSpace t).drop 2)
    else failAt .malformedDeclaration start

/-- Takes the declaration at the start of a document, if there is one. -/
def documentDeclaration (t : Text) : Reading (DocumentDeclaration × Text) :=
  if t.startsWith "<?xml" && (startsWithSpace (t.drop 5) || t.startsWith "<?xml?") then do
    let _ ← takeUpTo "?>" .unclosedToken t t
    match pseudoAttribute? (t.drop 5) with
    | some (name, _, rest) =>
      if name = ("version" : Text) then
        match pseudoAttribute? rest with
        | some (name, value, more) =>
          if name = ("encoding" : Text) then
            if startsWithLetter value then standaloneRest (some value) t more
            else failAt .malformedDeclaration t
          else standaloneRest none t rest
        | none => standaloneRest none t rest
      else failAt .malformedDeclaration t
    | none => failAt .malformedDeclaration t
  else .ok (⟨none, false⟩, t)

/-- Whether the code point may stand in a public identifier. -/
def isPublicIdPart (c : CodePoint) : Bool :=
  c.isAsciiDigit || c.isAsciiLetter || (" \r\n-'()+,./:=?;!*#@$_%" : Text).contains c

/-- Takes a quoted public identifier. -/
def publicId (start t : Text) : Reading (Text × Text) := do
  let (found, rest) ← quotedText start t
  if found.all isPublicIdPart then return (found, rest) else failAt .illegalPublicId t

/-- Takes an identifier of something outside the document, if there is one. -/
def externalId? (start t : Text) : Reading (Option Text) := do
  if t.startsWith "SYSTEM" then
    let (_, rest) ← quotedText start (← someSpace start (t.drop 6))
    return some rest
  else if t.startsWith "PUBLIC" then
    let (_, rest) ← publicId start (← someSpace start (t.drop 6))
    let (_, rest) ← quotedText start (← someSpace start rest)
    return some rest
  else return Option.none

/-- Takes the declaration of an entity after its first word. -/
def entityDeclaration (dtd : Dtd) (start t : Text) : Reading (Dtd × Text) := do
  let t ← someSpace start t
  let isParameter := t.startsWith "%"
  let t ← if isParameter then someSpace start (t.drop 1) else pure t
  let (name, t) ← plainName start t
  let t ← someSpace start t
  let (value, t) ←
    match ← externalId? start t with
    | some rest =>
      if !isParameter && startsWithSpace rest && (afterSpace rest).startsWith "NDATA" then do
        let (_, rest) ← plainName start (← someSpace start ((afterSpace rest).drop 5))
        pure (EntityValue.unparsed, rest)
      else pure (EntityValue.external, rest)
    | Option.none => do
      let (written, rest) ← quotedText start t
      let value ← if dtd.counts then entityText start (written.length + 1) written else pure []
      pure (EntityValue.internal value, rest)
  let rest ← expect start ">" (afterSpace t)
  if isParameter || !dtd.counts || (dtd.entities.lookup name).isSome ||
      (predefinedEntities.lookup name).isSome then
    return (dtd, rest)
  else return ({ dtd with entities := dtd.entities ++ [(name, value)] }, rest)

/-- The types of attributes that are a word. -/
def attributeTypes : List Text :=
  ["CDATA", "IDREFS", "IDREF", "ID", "ENTITIES", "ENTITY", "NMTOKENS", "NMTOKEN"].map
    Text.ofString

/-- Whether a text is one of the values in the type of an attribute. -/
def isNameToken (t : Text) : Bool :=
  !t.isEmpty && t.all fun c => isNamePart c || decide (c = ':')

/-- Whether a text is a name without a colon. -/
def isPlainName (t : Text) : Bool :=
  t.head?.any isNameStart && t.all isNamePart

/-- Takes a list of values with bars between them up to a closing parenthesis. -/
def valueChoice (isValue : Text → Bool) (start t : Text) : Reading Text := do
  let (inner, rest) ← takeUpTo ")" .unclosedToken start t
  if (Text.splitOn '|' inner).all fun value => isValue (value.stripBy isSpace) then return rest
  else failAt .invalidToken t

/-- Takes the type of an attribute and tells whether values of it are made of words. -/
def attributeType (start t : Text) : Reading (Bool × Text) :=
  if t.startsWith "(" then do
    return (true, ← valueChoice isNameToken start (t.drop 1))
  else if t.startsWith "NOTATION" then do
    let rest ← expect start "(" (← someSpace start (t.drop 8))
    return (true, ← valueChoice isPlainName start rest)
  else
    match attributeTypes.find? t.startsWith with
    | some word => .ok (decide (word ≠ ("CDATA" : Text)), t.drop word.length)
    | Option.none => misfit start t

/-- Takes the default of an attribute; there is a value, with what follows its inside, if it
has one. -/
def attributeDefault (start t : Text) : Reading (Option (Text × Text) × Text) := do
  if t.startsWith "#REQUIRED" then return (Option.none, t.drop 9)
  else if t.startsWith "#IMPLIED" then return (Option.none, t.drop 8)
  else
    let t ← if t.startsWith "#FIXED" then someSpace start (t.drop 6) else pure t
    let (written, rest) ← quotedText start t
    return (some (written, t.drop (written.length + 1)), rest)

/-- Takes the declarations of the attributes of an element, at most `fuel` of them. -/
def attributeDeclarations (element start : Text) : Nat → Dtd → Text → Reading (Dtd × Text)
  | 0, _, t => misfit start t
  | fuel + 1, dtd, t =>
    if (afterSpace t).startsWith ">" then .ok (dtd, (afterSpace t).drop 1)
    else do
      let (name, t) ← declaredName start (← someSpace start t)
      let (isTokenized, t) ← attributeType start (← someSpace start t)
      let (written?, t) ← attributeDefault start (← someSpace start t)
      if dtd.counts then
        let value ← written?.mapM fun (written, after) =>
          attributeValue dtd isTokenized after after written
        let declared : AttributeDeclaration := ⟨element, name, isTokenized, value⟩
        attributeDeclarations element start fuel
          { dtd with attributes := dtd.attributes ++ [declared] } t
      else attributeDeclarations element start fuel dtd t

/-- Takes the declaration of an element after its first word. -/
def elementDeclaration (start t : Text) : Reading Text := do
  let (_, rest) ← declaredName start (← someSpace start t)
  let rest ← contentModel start (← someSpace start rest)
  expect start ">" (afterSpace rest)

/-- Takes the declaration of a notation after its first word; it needs no place. -/
def notationDeclaration (start t : Text) : Reading Text := do
  let (_, rest) ← plainName start (← someSpace start t)
  let t ← someSpace start rest
  if t.startsWith "PUBLIC" then
    let (_, rest) ← publicId start (← someSpace start (t.drop 6))
    if (afterSpace rest).startsWith ">" then return (afterSpace rest).drop 1
    else
      let (_, rest) ← quotedText start (← someSpace start rest)
      expect start ">" (afterSpace rest)
  else
    let (_, rest) ← quotedText start (← someSpace start (← expect start "SYSTEM" t))
    expect start ">" (afterSpace rest)

/-- Takes the declarations in a document type up to its closing bracket, at most `fuel` of
them. -/
def declarations : Nat → Dtd → Text → Reading (Dtd × Text)
  | 0, _, t => failAt .invalidToken t
  | fuel + 1, dtd, t =>
    let t := afterSpace t
    if t.isEmpty then failAt .noElement t
    else if t.startsWith "]" then .ok (dtd, t.drop 1)
    else if t.startsWith "%" then do
      let (_, rest) ← plainName t (t.drop 1)
      let rest ← expect t ";" rest
      declarations fuel { dtd with isPartial := true, counts := dtd.standsAlone } rest
    else if t.startsWith "<!--" then do
      declarations fuel dtd (← comment t (t.drop 4))
    else if t.startsWith "<?" then do
      declarations fuel dtd (← instruction t (t.drop 2))
    else if t.startsWith "<!ENTITY" then do
      let (dtd, rest) ← entityDeclaration dtd t (t.drop 8)
      declarations fuel dtd rest
    else if t.startsWith "<!ATTLIST" then do
      let (element, rest) ← declaredName t (← someSpace t (t.drop 9))
      let (dtd, rest) ← attributeDeclarations element t (rest.length + 1) dtd rest
      declarations fuel dtd rest
    else if t.startsWith "<!ELEMENT" then do
      declarations fuel dtd (← elementDeclaration t (t.drop 9))
    else if t.startsWith "<!NOTATION" then do
      declarations fuel dtd (← notationDeclaration t (t.drop 10))
    else if t.head?.any isNameStart then failAt .malformedMarkup t
    else failAt .invalidToken t

/-- Takes a document type after its first word. -/
def documentType (standsAlone : Bool) (start t : Text) : Reading (Dtd × Text) := do
  let (_, t) ← declaredName start (← someSpace start t)
  let (isPartial, t) ←
    if startsWithSpace t then
      match ← externalId? start (afterSpace t) with
      | some rest => pure (true, rest)
      | Option.none => pure (false, t)
    else pure (false, t)
  let dtd := { Dtd.none standsAlone with isPartial := isPartial }
  let t := afterSpace t
  if t.startsWith "[" then
    let (dtd, t) ← declarations (t.length + 1) dtd (t.drop 1)
    return (dtd, ← expect start ">" (afterSpace t))
  else return (dtd, ← expect start ">" t)

end SpringAudit.Xml

import SpringAudit.Xml.Encoding
import SpringAudit.Xml.Prolog

/-!
# Documents and their elements

An element keeps its name with its namespace, the text before its first child
and its children.  Comments and processing instructions leave no trace, and the
text on both sides of them is joined.  Attributes count for namespaces only.
-/

namespace SpringAudit.Xml

/-- An element of a document; the namespace is empty if it has none. -/
inductive Element where
  | node (space name text : Text) (children : List Element)
  deriving Inhabited

namespace Element

/-- The namespace of an element. -/
def space : Element → Text
  | .node found _ _ _ => found

/-- The text before the first child. -/
def text : Element → Text
  | .node _ _ found _ => found

/-- The children of an element. -/
def children : Element → List Element
  | .node _ _ _ found => found

/-- The namespace that stands for all namespaces and for none when elements are looked for. -/
def anySpace : Text := "*"

/-- Whether an element has a given name in a given namespace. -/
def isNamed (space name : Text) : Element → Bool
  | .node s n _ _ => (decide (s = space) || decide (space = anySpace)) && decide (n = name)

/-- The children with a given name in a given namespace. -/
def childrenNamed (e : Element) (space name : Text) : List Element :=
  e.children.filter (isNamed space name)

end Element

/-- An element whose end has not been read; the latest child comes first. -/
structure OpenElement where
  written : Text
  space : Text
  name : Text
  /-- The namespaces of prefixes, the innermost first. -/
  scope : List (Text × Text)
  text : Text
  children : List Element

namespace OpenElement

/-- The finished element. -/
def finish (e : OpenElement) : Element :=
  .node e.space e.name e.text e.children.reverse

/-- The element with more text, which counts before the first child only. -/
def addText (e : OpenElement) (more : Text) : OpenElement :=
  if e.children.isEmpty then { e with text := e.text ++ more } else e

end OpenElement

/-- The namespace of the prefix `xml`. -/
def xmlNamespace : Text := "http://www.w3.org/XML/1998/namespace"

/-- The namespace of the prefix `xmlns`. -/
def xmlnsNamespace : Text := "http://www.w3.org/2000/xmlns/"

/-- A start tag as it is written. -/
structure Tag where
  name : Text
  attributes : List (Text × Text)
  isEmpty : Bool

/-- Takes the attributes and the end of a start tag, at most `fuel` of them. -/
def tagRest (dtd : Dtd) (start name : Text) :
    Nat → List (Text × Text) → Text → Reading (Tag × Text)
  | 0, _, t => misfit start t
  | fuel + 1, found, t => do
    let following := afterSpace t
    if following.startsWith ">" then return (⟨name, found, false⟩, following.drop 1)
    else if following.startsWith "/>" then return (⟨name, found, true⟩, following.drop 2)
    else
      let t ← if following.startsWith "/" then misfit start (following.drop 1)
        else someSpace start t
      let (label, rest) ← prefixedName start t
      let quoted := afterSpace (← expect start "=" (afterSpace rest))
      let (written, rest) ← quotedText start quoted
      if found.any fun (known, _) => decide (known = label) then failAt .duplicateAttribute t
      else
        let isTokenized := (dtd.attribute? name label).any AttributeDeclaration.isTokenized
        let value ← attributeValue dtd isTokenized start (quoted.drop (written.length + 1)) written
        tagRest dtd start name fuel (found ++ [(label, value)]) rest

/-- The attributes of an element with the default values of those that are not written. -/
def Dtd.withDefaults (dtd : Dtd) (element : Text) (written : List (Text × Text)) :
    List (Text × Text) :=
  let add (found : List (Text × Text)) (a : AttributeDeclaration) : List (Text × Text) :=
    match (dtd.attribute? element a.name).bind AttributeDeclaration.defaultValue with
    | some value =>
      if found.any fun (known, _) => decide (known = a.name) then found
      else found ++ [(a.name, value)]
    | Option.none => found
  (dtd.attributes.filter fun a => decide (a.element = element)).foldl add written

/-- Takes a start tag with its opening bracket. -/
def startTag (dtd : Dtd) (t : Text) : Reading (Tag × Text) := do
  let (name, rest) ← prefixedName t (t.drop 1)
  let (tag, rest) ← tagRest dtd t name (rest.length + 1) [] rest
  return ({ tag with attributes := dtd.withDefaults name tag.attributes }, rest)

/-- The prefix that an attribute declares, if it declares one. -/
def declaredPrefix? (label : Text) : Option Text :=
  if label = ("xmlns" : Text) then some []
  else
    let (before, localPart) := splitName label
    if before = ("xmlns" : Text) then some localPart else none

/-- Why a prefix cannot be bound to a namespace, if it cannot. -/
def bindingFault? (before space : Text) : Option Cause :=
  if before = ("xmlns" : Text) then some .reservedXmlnsPrefix
  else if before = ("xml" : Text) then
    if space = xmlNamespace then none else some .reservedXmlPrefix
  else if !before.isEmpty && space.isEmpty then some .undeclaredPrefix
  else if space = xmlNamespace ∨ space = xmlnsNamespace then some .reservedNamespace
  else if space.contains '\x7d' then some .malformedMarkup
  else none

/-- The namespace of a prefix; the empty one need not be bound. -/
def namespaceOf (start : Text) (scope : List (Text × Text)) (before : Text) : Reading Text :=
  match scope.lookup before with
  | some space => .ok space
  | none =>
    if before.isEmpty then .ok []
    else if before = ("xml" : Text) then .ok xmlNamespace
    else failAt .unboundPrefix start

/-- Whether a list holds something twice. -/
def hasRepetition : List (Text × Text) → Bool
  | [] => false
  | name :: rest => rest.contains name || hasRepetition rest

/-- The open element of a start tag within a scope of namespaces. -/
def openElement (start : Text) (scope : List (Text × Text)) (tag : Tag) :
    Reading OpenElement := do
  let declared := tag.attributes.filterMap fun (label, space) =>
    (declaredPrefix? label).map fun before => (before, space)
  match declared.findSome? fun (before, space) => bindingFault? before space with
  | some cause => failAt cause start
  | none =>
    let inner := declared ++ scope
    let (before, localPart) := splitName tag.name
    let space ← namespaceOf start inner before
    let qualified := tag.attributes.filter fun (label, _) =>
      (declaredPrefix? label).isNone && label.contains ':'
    let names ← qualified.mapM fun (label, _) => do
      return (← namespaceOf start inner (splitName label).1, (splitName label).2)
    if hasRepetition names then failAt .duplicateAttribute start
    else return ⟨tag.name, space, localPart, inner, [], []⟩

/-- The outcome of an end: the elements that are still open, or the root element. -/
def closeElement : List OpenElement → List OpenElement × Option Element
  | [] => ([], none)
  | [root] => ([], some root.finish)
  | e :: parent :: rest => ({ parent with children := e.finish :: parent.children } :: rest, none)

/-- The open elements with more text in the innermost. -/
def addText (more : Text) : List OpenElement → List OpenElement
  | [] => []
  | e :: rest => e.addText more :: rest

/-- Takes an end tag after its opening mark, which has to fit the innermost element. -/
def endTag (start : Text) (elements : List OpenElement) (t : Text) : Reading Text := do
  let (name, rest) ← prefixedName start t
  let rest ← expect start ">" (afterSpace rest)
  if elements.head?.any fun e => decide (e.written = name) then return rest
  else failAt .mismatchedTag t

/-- Takes character data without references, up to markup. -/
def characterData (elements : List OpenElement) (t : Text) :
    Reading (List OpenElement × Text) :=
  let run : Text := t.takeWhile fun c =>
    isCharacter c && decide (c ≠ '<') && decide (c ≠ '&') && decide (c ≠ ']')
  if !run.isEmpty then .ok (addText run elements, t.drop run.length)
  else if t.startsWith "]" && !t.startsWith "]]>" then .ok (addText "]" elements, t.drop 1)
  else if t.startsWith "]]>" then failAt .invalidToken (t.drop 2)
  else failAt .invalidToken t

/-- Takes content up to the end of the root element or, inside an entity, of the text.
`depth` elements are open outside of the text, and `enter` reads the content of an entity.
At most `fuel` parts are read. -/
def content (dtd : Dtd)
    (enter : Text → Text → List OpenElement → Reading (List OpenElement)) (depth : Nat) :
    Nat → List OpenElement → Text → Reading (List OpenElement × Option (Element × Text))
  | 0, _, t => failAt .invalidToken t
  | fuel + 1, elements, t => do
    if t.isEmpty then
      if depth = 0 then failAt .noElement t
      else if elements.length = depth then return (elements, none)
      else failAt .unbalancedEntity t
    else if t.startsWith "</" then
      let rest ← endTag t elements (t.drop 2)
      if elements.length ≤ depth then failAt .unbalancedEntity t
      else
        match closeElement elements with
        | (_, some root) => return ([], some (root, rest))
        | (outer, none) => content dtd enter depth fuel outer rest
    else if t.startsWith "<!--" then
      content dtd enter depth fuel elements (← comment t (t.drop 4))
    else if t.startsWith "<![CDATA[" then
      let (inner, rest) ← takeUpTo "]]>" .unclosedCdata [] (t.drop 9)
      content dtd enter depth fuel (addText inner elements) rest
    else if t.startsWith "<?" then
      content dtd enter depth fuel elements (← instruction t (t.drop 2))
    else if t.startsWith "<!" then
      misfit t (← expect t (if t.startsWith "<![" then "<![CDATA[" else "<!--") t)
    else if t.startsWith "<" then
      let (tag, rest) ← startTag dtd t
      let scope := (elements.head?.map OpenElement.scope).getD []
      let opened ← openElement t scope tag
      if tag.isEmpty then
        match closeElement (opened :: elements) with
        | (_, some root) => return ([], some (root, rest))
        | (outer, none) => content dtd enter depth fuel outer rest
      else content dtd enter depth fuel (opened :: elements) rest
    else if t.startsWith "&" then
      match ← reference t (t.drop 1) with
      | (.character n, rest) =>
        let c ← referredCharacter t n
        content dtd enter depth fuel (addText [c] elements) rest
      | (.entity name, rest) =>
        match predefinedEntities.lookup name with
        | some known => content dtd enter depth fuel (addText [known] elements) rest
        | none => content dtd enter depth fuel (← enter t name elements) rest
    else
      let (elements, rest) ← characterData elements t
      content dtd enter depth fuel elements rest

/-- Reads the content of an entity, nested at most a number of levels; `entered` holds the
entities that are being read.  A fault inside counts at the outermost reference. -/
def entityContent (dtd : Dtd) :
    Nat → List Text → Text → Text → List OpenElement → Reading (List OpenElement)
  | 0, _, start, _, _ => failAt .recursiveEntity start
  | levels + 1, entered, start, name, elements =>
    if entered.contains name then failAt .recursiveEntity start
    else match dtd.entities.lookup name with
      | some (.internal found) =>
        let inner := content dtd (entityContent dtd levels (name :: entered)) elements.length
          (found.length + 1) elements found
        (inner.map Prod.fst).mapError fun fault => { fault with rest := start }
      | some .external => failAt (.undefinedEntity name) start
      | some .unparsed => failAt .unparsedEntity start
      | none =>
        if dtd.isPartial && !dtd.standsAlone then failAt (.undefinedEntity name) start
        else failAt .undeclaredEntity start

/-- Takes what comes before the root element after the declaration of the document, at most
`fuel` parts. -/
def prolog (standsAlone : Bool) : Nat → Option Dtd → Text → Reading (Dtd × Text)
  | 0, _, t => failAt .invalidToken t
  | fuel + 1, dtd, t =>
    let t := afterSpace t
    if t.isEmpty then failAt .noElement t
    else if t.startsWith "<!--" then do
      prolog standsAlone fuel dtd (← comment t (t.drop 4))
    else if t.startsWith "<?" then do
      prolog standsAlone fuel dtd (← instruction t (t.drop 2))
    else if t.startsWith "<!DOCTYPE" then
      if dtd.isSome then failAt .malformedMarkup t
      else do
        let (found, rest) ← documentType standsAlone t (t.drop 9)
        prolog standsAlone fuel (some found) rest
    else if t.startsWith "<!" then failAt .malformedMarkup t
    else if t.startsWith "</" then failAt .invalidToken (t.drop 1)
    else if t.startsWith "<" then .ok (dtd.getD (.none standsAlone), t)
    else
      let word := t.takeWhile isNamePart
      let rest := t.drop word.length
      if word.isEmpty then failAt .invalidToken t
      else if rest.isEmpty || startsWithSpace rest then failAt .malformedMarkup t
      else failAt .invalidToken rest

/-- Reads what comes after the root element, at most `fuel` parts. -/
def epilog : Nat → Text → Reading Unit
  | 0, t => failAt .textAfterRoot t
  | fuel + 1, t =>
    let t := afterSpace t
    if t.isEmpty then .ok ()
    else if t.startsWith "<!--" then do
      epilog fuel (← comment t (t.drop 4))
    else if t.startsWith "<?" then do
      epilog fuel (← instruction t (t.drop 2))
    else failAt .textAfterRoot t

/-- The root element of a document. -/
def rootElement (t : Text) : Reading Element := do
  let (declaration, rest) ← documentDeclaration t
  let (dtd, rest) ← prolog declaration.standsAlone (rest.length + 1) none rest
  let enter := entityContent dtd (dtd.entities.length + 1) []
  match ← content dtd enter 0 (rest.length + 1) [] rest with
  | (_, some (root, rest)) =>
    epilog (rest.length + 1) rest
    return root
  | (_, none) => failAt .noElement []

/-- The declared encoding of a document, as far as its start can be read, with the number of
octets up to the end of the declaration. -/
def declaredEncoding? (current : Encoding) (octets : List UInt8) : Option (Text × Nat) :=
  let start : Encoding := if current.isWide then current else .page .latin1
  let (t, _) := start.decode octets
  match documentDeclaration t with
  | .ok (declaration, rest) =>
    declaration.encoding.map fun name =>
      (name, (t.length - rest.length) * (if current.isWide then 2 else 1))
  | .error _ => none

/-- Why octets are no document. -/
inductive DocumentFailure where
  | malformed (error : Error)
  | unknownEncoding

/-- The root element of a decoded document that is whole or breaks off at octets without a
meaning; a mark of the encoding before it takes a column. -/
def rootOfDecoded (mark t : Text) (isWhole : Bool) : Except DocumentFailure Element :=
  let fail (fault : ReadFault) : Except DocumentFailure Element :=
    .error (.malformed (fault.locate (mark ++ t)))
  match rootElement t with
  | .ok root => if isWhole then .ok root else fail ⟨.invalidToken, []⟩
  | .error fault =>
    if !isWhole && fault.cause.isEarlyEnd then fail ⟨.invalidToken, []⟩ else fail fault

/-- The root element of the document that octets spell. -/
def Element.ofOctets (octets : List UInt8) : Except DocumentFailure Element :=
  let (current, body) := Encoding.detect octets
  let mark : Text := if body.length < octets.length then [CodePoint.ofNat 0xFEFF] else []
  let read (text : Text × Bool) : Except DocumentFailure Element :=
    rootOfDecoded mark (Text.normalizeLineEnds text.1) text.2
  match declaredEncoding? current body with
  | none => read (current.decode body)
  | some (name, count) =>
    match NamedEncoding.ofName current name with
    | .encoding e => read (current.decodeThen e count body)
    | .unfit => .error (.malformed ⟨.incorrectEncoding, 1, 30⟩)
    | .unusable => .error (.malformed ⟨.unusableEncoding, 1, 30⟩)
    | .unknown => .error .unknownEncoding

end SpringAudit.Xml

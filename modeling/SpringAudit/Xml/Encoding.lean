import SpringAudit.Text.Utf8
import SpringAudit.Xml.NamedPage

/-!
# The encoding of a document

A byte order mark or the pattern of the first two octets shows UTF-16; all other
documents start as UTF-8.  The declaration may name another encoding for what
follows it: either one of the same width or a code page.  Decoding goes up to the
first octets that mean nothing.
-/

namespace SpringAudit.Xml

/-- The encodings of documents. -/
inductive Encoding where
  | utf8
  | utf16Big
  | utf16Little
  | page (p : CodePage)
  deriving DecidableEq

/-- The encoding that the first octets show, and what follows a byte order mark. -/
def Encoding.detect : List UInt8 → Encoding × List UInt8
  | 0xEF :: 0xBB :: 0xBF :: rest => (.utf8, rest)
  | 0xFE :: 0xFF :: rest => (.utf16Big, rest)
  | 0xFF :: 0xFE :: rest => (.utf16Little, rest)
  | a :: b :: rest =>
    if a = 0 then (.utf16Big, a :: b :: rest)
    else if b = 0 then (.utf16Little, a :: b :: rest)
    else (.utf8, a :: b :: rest)
  | octets => (.utf8, octets)

/-- Whether two octets make a unit. -/
def Encoding.isWide : Encoding → Bool
  | .utf16Big => true
  | .utf16Little => true
  | _ => false

/-- What the name of an encoding means for a document. -/
inductive NamedEncoding where
  | encoding (e : Encoding)
  /-- The document is not in the encoding. -/
  | unfit
  /-- Documents cannot be in the encoding. -/
  | unusable
  | unknown

/-- The meaning of a name that is not one of the usual ones.  UTF-8 under such a name counts as
a code page, of which ASCII is left. -/
def NamedEncoding.ofOtherName (name : Text) : NamedEncoding :=
  let form := NamedPage.plainForm name
  match NamedPage.all.find? (NamedPage.isNamed form) with
  | some known => .encoding (.page known.page)
  | none => if NamedPage.foreignNames.isNamed form then .unusable else .unknown

/-- The meaning of a declared name, given the encoding of the declaration. -/
def NamedEncoding.ofName (current : Encoding) (name : Text) : NamedEncoding :=
  let lower := name.lowerAscii
  let narrow (e : Encoding) : NamedEncoding := if current.isWide then .unfit else .encoding e
  let same (fits : Bool) : NamedEncoding := if fits then .encoding current else .unfit
  if lower = ("utf-8" : Text) then narrow .utf8
  else if lower = ("iso-8859-1" : Text) then narrow (.page .latin1)
  else if lower = ("us-ascii" : Text) then narrow (.page .ascii)
  else if lower = ("utf-16" : Text) then same current.isWide
  else if lower = ("utf-16be" : Text) then same (current = .utf16Big)
  else if lower = ("utf-16le" : Text) then same (current = .utf16Little)
  else ofOtherName name

/-- Decodes octets in UTF-8, with a sequence possibly under way, up to the first fault; tells
whether there was none. -/
def decodeUtf8 : Option Text.Utf8Pending → List UInt8 → Text × Bool
  | none, [] => ([], true)
  | some _, [] => ([], false)
  | none, octet :: rest =>
    match Text.utf8Begin octet.toNat with
    | ([], none) => ([], false)
    | (found, pending) =>
      let (text, isWhole) := decodeUtf8 pending rest
      (found ++ text, isWhole)
  | some begun, octet :: rest =>
    if begun.low ≤ octet.toNat ∧ octet.toNat ≤ begun.high then
      let (found, pending) := Text.utf8Continue begun octet.toNat
      let (text, isWhole) := decodeUtf8 pending rest
      (found ++ text, isWhole)
    else ([], false)

/-- The units of octets in pairs; tells whether no octet is left over. -/
def unitsOf (highFirst : Bool) : List UInt8 → List Nat × Bool
  | [] => ([], true)
  | [_] => ([], false)
  | a :: b :: rest =>
    let (units, isWhole) := unitsOf highFirst rest
    ((if highFirst then a.toNat * 256 + b.toNat else b.toNat * 256 + a.toNat) :: units, isWhole)

/-- Decodes sixteen-bit units up to the first lone surrogate. -/
def decodeUnits : List Nat → Text × Bool
  | [] => ([], true)
  | unit :: rest =>
    if 0xDC00 ≤ unit ∧ unit ≤ 0xDFFF then ([], false)
    else if 0xD800 ≤ unit ∧ unit ≤ 0xDBFF then
      match rest with
      | low :: more =>
        if 0xDC00 ≤ low ∧ low ≤ 0xDFFF then
          let (text, isWhole) := decodeUnits more
          (CodePoint.ofNat (0x10000 + (unit - 0xD800) * 0x400 + (low - 0xDC00)) :: text, isWhole)
        else ([], false)
      | [] => ([], false)
    else
      let (text, isWhole) := decodeUnits rest
      (CodePoint.ofNat unit :: text, isWhole)

/-- The text that octets spell up to the first fault; tells whether there was none. -/
def Encoding.decode (e : Encoding) (octets : List UInt8) : Text × Bool :=
  match e with
  | .utf8 => decodeUtf8 none octets
  | .page p => p.decode octets
  | wide =>
    let (units, isEven) := unitsOf (wide = .utf16Big) octets
    let (text, isWhole) := decodeUnits units
    (text, isEven && isWhole)

/-- The text that octets spell of which a number are in one encoding and the others in
another. -/
def Encoding.decodeThen (first second : Encoding) (count : Nat) (octets : List UInt8) :
    Text × Bool :=
  let (before, _) := first.decode (octets.take count)
  let (after, isWhole) := second.decode (octets.drop count)
  (before ++ after, isWhole)

end SpringAudit.Xml

import SpringAudit.Text.Basic

/-!
# Code pages

A code page spells each character by one octet.  Below 0x80 all pages agree with
ASCII, but for the characters that a page leaves out.
-/

namespace SpringAudit.Xml

/-- An encoding with one octet a character. -/
structure CodePage where
  /-- The characters of the octets from 0x80 on; U+FFFD stands for none. -/
  upper : Text
  /-- The ASCII characters that the page leaves out. -/
  missing : Text := []
  deriving DecidableEq

namespace CodePage

/-- The octets below 0x80 only. -/
def ascii : CodePage := { upper := [] }

/-- The first 256 code points. -/
def latin1 : CodePage := { upper := (List.range 0x80).map fun n => CodePoint.ofNat (0x80 + n) }

/-- The character of an octet, if the page has one. -/
def character? (p : CodePage) (octet : UInt8) : Option CodePoint :=
  if octet < 0x80 then
    let c := CodePoint.ofNat octet.toNat
    if p.missing.contains c then none else some c
  else
    match p.upper[octet.toNat - 0x80]? with
    | some c => if c.toNat = 0xFFFD then none else some c
    | none => none

/-- The text that octets spell up to the first without a character; tells whether there was
none. -/
def decode (p : CodePage) : List UInt8 → Text × Bool
  | [] => ([], true)
  | octet :: rest =>
    match p.character? octet with
    | some c =>
      let (text, isWhole) := p.decode rest
      (c :: text, isWhole)
    | none => ([], false)

end CodePage

end SpringAudit.Xml

import SpringAudit.Text.Basic

/-!
# Lenient reading of UTF-8

Octets that belong to no well-formed UTF-8 sequence are dropped and reading goes
on after them.  A sequence that breaks off is dropped up to the octet that does
not continue it.  Overlong forms and surrogates are not well-formed; a byte
order mark is kept.
-/

namespace SpringAudit.Text

/-- An unfinished sequence: what is owed, the range of the next octet and the value so far. -/
structure Utf8Pending where
  owed : Nat
  low : Nat
  high : Nat
  value : Nat

/-- The effect of an octet between two sequences: a finished code point or a begun sequence. -/
def utf8Begin (octet : Nat) : Text × Option Utf8Pending :=
  if octet < 0x80 then ((CodePoint.ofNat? octet).toList, none)
  else if octet < 0xC2 then ([], none)
  else if octet < 0xE0 then ([], some ⟨1, 0x80, 0xBF, octet - 0xC0⟩)
  else if octet = 0xE0 then ([], some ⟨2, 0xA0, 0xBF, 0⟩)
  else if octet = 0xED then ([], some ⟨2, 0x80, 0x9F, 0xD⟩)
  else if octet < 0xF0 then ([], some ⟨2, 0x80, 0xBF, octet - 0xE0⟩)
  else if octet = 0xF0 then ([], some ⟨3, 0x90, 0xBF, 0⟩)
  else if octet < 0xF4 then ([], some ⟨3, 0x80, 0xBF, octet - 0xF0⟩)
  else if octet = 0xF4 then ([], some ⟨3, 0x80, 0x8F, 4⟩)
  else ([], none)

/-- The effect of an octet within a sequence; one that does not continue it begins anew. -/
def utf8Continue (pending : Utf8Pending) (octet : Nat) : Text × Option Utf8Pending :=
  if pending.low ≤ octet ∧ octet ≤ pending.high then
    let value := pending.value * 64 + (octet - 0x80)
    if pending.owed ≤ 1 then ((CodePoint.ofNat? value).toList, none)
    else ([], some ⟨pending.owed - 1, 0x80, 0xBF, value⟩)
  else utf8Begin octet

/-- Reads the octets that follow, with a sequence possibly under way. -/
def ofUtf8From : Option Utf8Pending → List UInt8 → Text
  | _, [] => []
  | none, octet :: rest =>
    let (found, pending) := utf8Begin octet.toNat
    found ++ ofUtf8From pending rest
  | some begun, octet :: rest =>
    let (found, pending) := utf8Continue begun octet.toNat
    found ++ ofUtf8From pending rest

/-- The text that the well-formed sequences among the octets spell. -/
def ofUtf8Lenient (octets : List UInt8) : Text :=
  ofUtf8From none octets

end SpringAudit.Text

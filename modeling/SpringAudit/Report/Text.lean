import SpringAudit.Endpoint.Field
import SpringAudit.Text.Quoted

/-!
# The report as text

In lines, each endpoint is one line that names its fields with quoted values.

In JSON, the report is an array of objects with the fields in their order, indented by
two spaces a level and in ASCII only; a code point above U+FFFF is written as a
surrogate pair.
-/

namespace SpringAudit

/-! ## In lines -/

/-- The line of an endpoint. -/
def Endpoint.line (e : Endpoint) : Text :=
  "RouteRecord(" ++
    Text.join ", " (Field.all.map fun field => field.name ++ "=" ++ (field.read e).quoted) ++
    ")"

/-- The report in lines, without a line end after the last. -/
def linesReport (endpoints : List Endpoint) : Text :=
  Text.join "\n" (endpoints.map Endpoint.line)

/-! ## In JSON -/

/-- A sixteen-bit unit as an escape. -/
def jsonUnit (n : Nat) : Text :=
  "\\u" ++ Text.hex 4 n

/-- How one code point is written in a JSON string. -/
def jsonCharacter (c : CodePoint) : Text :=
  if c = '"' then "\\\""
  else if c = '\\' then "\\\\"
  else if c = '\n' then "\\n"
  else if c = '\r' then "\\r"
  else if c = '\t' then "\\t"
  else if c.toNat = 0x0C then "\\f"
  else if c.toNat = 0x08 then "\\b"
  else if 0x20 ≤ c.toNat ∧ c.toNat ≤ 0x7E then [c]
  else if c.toNat < 0x10000 then jsonUnit c.toNat
  else
    jsonUnit (0xD800 + (c.toNat - 0x10000) / 0x400) ++
      jsonUnit (0xDC00 + (c.toNat - 0x10000) % 0x400)

/-- A text as JSON string. -/
def jsonString (t : Text) : Text :=
  "\"" ++ t.flatMap jsonCharacter ++ "\""

/-- An endpoint as JSON object, indented by one level. -/
def Endpoint.jsonObject (e : Endpoint) : Text :=
  "  \x7b\n" ++
    Text.join ",\n" (Field.all.map fun field =>
      "    " ++ jsonString field.name ++ ": " ++ jsonString (field.read e)) ++
    "\n  \x7d"

/-- The report in JSON. -/
def jsonReport (endpoints : List Endpoint) : Text :=
  if endpoints.isEmpty then "[]"
  else "[\n" ++ Text.join ",\n" (endpoints.map Endpoint.jsonObject) ++ "\n]"

end SpringAudit

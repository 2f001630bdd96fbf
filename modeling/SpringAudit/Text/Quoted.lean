import SpringAudit.Text.Printable

/-!
# Quoted text

The quoted form of a text stands on one line: line ends, tabs and unprintable
code points are written as escapes.  The quotation mark is single unless the
text holds a single and no double one.
-/

namespace SpringAudit.Text

/-- The mark that a text is quoted with. -/
def quotationMark (t : Text) : CodePoint :=
  if t.contains '\'' && !t.contains '"' then '"' else '\''

/-- How one code point is written between two quotation marks. -/
def escaped (mark c : CodePoint) : Text :=
  if c = mark ∨ c = '\\' then ['\\', c]
  else if c = '\t' then "\\t"
  else if c = '\n' then "\\n"
  else if c = '\r' then "\\r"
  else if c.isPrintable then [c]
  else if c.toNat < 0x100 then "\\x" ++ hex 2 c.toNat
  else if c.toNat < 0x10000 then "\\u" ++ hex 4 c.toNat
  else "\\U" ++ hex 8 c.toNat

/-- The quoted form of a text. -/
def quoted (t : Text) : Text :=
  t.quotationMark :: t.flatMap (escaped t.quotationMark) ++ [t.quotationMark]

end SpringAudit.Text

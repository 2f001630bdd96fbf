/-!
# Text as code points

A text is a list of Unicode code points.  Surrogate code points are allowed on
their own, because a Java escape can name one half of a pair; a text therefore
need not have a UTF-8 form.  Characters and strings are read as texts by
coercion, so constants are written as ordinary literals.

A class of code points is a list of closed ranges.  The tables that use it list the
ranges in increasing order, but membership does not rely on that.  Blanks are such a
class: the code points with the Unicode property White_Space and the four information
separators U+001C to U+001F.
-/

namespace SpringAudit

/-- A Unicode code point, surrogates included. -/
structure CodePoint where
  toNat : Nat
  isLt : toNat < 0x110000
  deriving DecidableEq

/-- A text is a finite sequence of code points. -/
abbrev Text := List CodePoint

namespace CodePoint

/-- The code point of a character. -/
def ofChar (c : Char) : CodePoint :=
  ⟨c.toNat, by
    have h : c.toNat = c.val.toNat := rfl
    rcases c.valid with low | high
    · have : c.val.toNat < 0xD800 := low
      omega
    · have : c.val.toNat < 0x110000 := high.2
      omega⟩

/-- The code point with a given number, if there is one. -/
def ofNat? (n : Nat) : Option CodePoint :=
  if h : n < 0x110000 then some ⟨n, h⟩ else none

/-- The code point with a given number; a number without one gives U+FFFD. -/
def ofNat (n : Nat) : CodePoint :=
  (ofNat? n).getD ⟨0xFFFD, by decide⟩

instance : Coe Char CodePoint := ⟨ofChar⟩

instance : Inhabited CodePoint := ⟨ofChar ' '⟩

instance : LT CodePoint := ⟨fun a b => a.toNat < b.toNat⟩

instance : LE CodePoint := ⟨fun a b => a.toNat ≤ b.toNat⟩

instance (a b : CodePoint) : Decidable (a < b) :=
  inferInstanceAs (Decidable (a.toNat < b.toNat))

instance (a b : CodePoint) : Decidable (a ≤ b) :=
  inferInstanceAs (Decidable (a.toNat ≤ b.toNat))

theorem ext_toNat {a b : CodePoint} (h : a.toNat = b.toNat) : a = b := by
  cases a
  cases b
  simp_all

/-- Whether the code point is one half of a surrogate pair. -/
def isSurrogate (c : CodePoint) : Bool :=
  0xD800 ≤ c.toNat && c.toNat ≤ 0xDFFF

/-- Whether the code point is an ASCII digit from `0` to `9`. -/
def isAsciiDigit (c : CodePoint) : Bool :=
  0x30 ≤ c.toNat && c.toNat ≤ 0x39

/-- Whether the code point is an ASCII letter in either case. -/
def isAsciiLetter (c : CodePoint) : Bool :=
  (0x61 ≤ c.toNat && c.toNat ≤ 0x7A) || (0x41 ≤ c.toNat && c.toNat ≤ 0x5A)

/-- Whether the code point is an octal digit. -/
def isOctalDigit (c : CodePoint) : Bool :=
  0x30 ≤ c.toNat && c.toNat ≤ 0x37

/-- The value of a hexadecimal digit in either case. -/
def hexValue? (c : CodePoint) : Option Nat :=
  if 0x30 ≤ c.toNat ∧ c.toNat ≤ 0x39 then some (c.toNat - 0x30)
  else if 0x61 ≤ c.toNat ∧ c.toNat ≤ 0x66 then some (c.toNat - 0x61 + 10)
  else if 0x41 ≤ c.toNat ∧ c.toNat ≤ 0x46 then some (c.toNat - 0x41 + 10)
  else none

/-- Whether the code point is a hexadecimal digit in either case. -/
def isHexDigit (c : CodePoint) : Bool :=
  c.hexValue?.isSome

/-- The lower-case form of an ASCII letter; all else is unchanged. -/
def lowerAscii (c : CodePoint) : CodePoint :=
  if h : 0x41 ≤ c.toNat ∧ c.toNat ≤ 0x5A then ⟨c.toNat + 0x20, by omega⟩ else c

/-- The lower-case hexadecimal digit of `n % 16`. -/
def hexDigit (n : Nat) : CodePoint :=
  if n % 16 < 10 then ⟨0x30 + n % 16, by omega⟩ else ⟨0x61 + (n % 16 - 10), by omega⟩

end CodePoint

/-- A set of code points, as closed ranges of their numbers. -/
abbrev CodeRanges := List (Nat × Nat)

namespace CodeRanges

/-- Whether some range holds the number. -/
def contains (ranges : CodeRanges) (n : Nat) : Bool :=
  ranges.any fun range => range.1 ≤ n && n ≤ range.2

theorem contains_iff {ranges : CodeRanges} {n : Nat} :
    ranges.contains n = true ↔ ∃ range ∈ ranges, range.1 ≤ n ∧ n ≤ range.2 := by
  simp [contains]

end CodeRanges

/-- The ranges of blank code points. -/
def blankRanges : CodeRanges := [
   (0x9, 0xD), (0x1C, 0x20), (0x85, 0x85), (0xA0, 0xA0), (0x1680, 0x1680), (0x2000, 0x200A),
   (0x2028, 0x2029), (0x202F, 0x202F), (0x205F, 0x205F), (0x3000, 0x3000) ]

/-- Whether the code point is blank. -/
def CodePoint.isBlank (c : CodePoint) : Bool :=
  blankRanges.contains c.toNat

namespace Text

/-- The code points of a string. -/
def ofString (s : String) : Text :=
  s.toList.map CodePoint.ofChar

instance : Coe String Text := ⟨ofString⟩

/-- The string with the same characters, if the text holds no surrogate. -/
def toString? (t : Text) : Option String :=
  if t.any CodePoint.isSurrogate then none
  else some (String.ofList (t.map fun c => Char.ofNat c.toNat))

/-- Code-point order: the first difference decides, and a proper beginning comes first. -/
def ble : Text → Text → Bool
  | [], _ => true
  | _ :: _, [] => false
  | a :: s, b :: t => a.toNat < b.toNat || (a == b && ble s t)

/-- Whether the text starts with a given beginning. -/
def startsWith (t beginning : Text) : Bool :=
  beginning.isPrefixOf t

/-- Whether the text ends with a given ending. -/
def endsWith (t ending : Text) : Bool :=
  ending.isSuffixOf t

/-- The texts joined by a separator. -/
def join (separator : Text) : List Text → Text
  | [] => []
  | [t] => t
  | t :: u :: rest => t ++ separator ++ join separator (u :: rest)

/-- The pieces between the occurrences of a separator; always at least one. -/
def splitOn (separator : CodePoint) : Text → List Text
  | [] => [[]]
  | c :: rest =>
    if c = separator then [] :: splitOn separator rest
    else match splitOn separator rest with
      | [] => [[c]]
      | piece :: pieces => (c :: piece) :: pieces

/-- The piece after the last occurrence of a separator, or all of the text. -/
def afterLast (separator : CodePoint) (t : Text) : Text :=
  (t.reverse.takeWhile fun c => decide (c ≠ separator)).reverse

/-- The text without the leading and trailing code points of a class. -/
def stripBy (drop : CodePoint → Bool) (t : Text) : Text :=
  ((t.dropWhile drop).reverse.dropWhile drop).reverse

/-- The text without leading and trailing blanks. -/
def strip (t : Text) : Text :=
  t.stripBy CodePoint.isBlank

/-- Whether the text consists of blanks only. -/
def isBlank (t : Text) : Bool :=
  t.all CodePoint.isBlank

/-- The text with all line ends written as line feeds. -/
def normalizeLineEnds : Text → Text
  | [] => []
  | [c] => if c = '\r' then "\n" else [c]
  | c :: d :: rest =>
    if c = '\r' then
      if d = '\n' then '\n' :: normalizeLineEnds rest
      else '\n' :: normalizeLineEnds (d :: rest)
    else c :: normalizeLineEnds (d :: rest)

/-- The text with ASCII letters in lower case. -/
def lowerAscii (t : Text) : Text :=
  t.map CodePoint.lowerAscii

/-- The decimal digits of a number. -/
def ofNat (n : Nat) : Text :=
  ofString (toString n)

/-- The last `width` hexadecimal digits of a number, in lower case. -/
def hex (width n : Nat) : Text :=
  match width with
  | 0 => []
  | width + 1 => hex width (n / 16) ++ [CodePoint.hexDigit n]

/-- A text repeated a number of times. -/
def repeated (n : Nat) (t : Text) : Text :=
  (List.replicate n t).flatten

theorem ofString_empty : ofString "" = [] := rfl

end Text

end SpringAudit

import SpringAudit.Proofs.Text.Basic
import SpringAudit.Proofs.Text.Numeral

/-!
# JSON texts and their values

The grammar of JSON as relations between a value, a text that starts with a written form of it,
and the rest of the text.  The text of a JSON string is given by its sixteen-bit units, so that
an escaped surrogate pair and the code point above U+FFFF that it stands for are the same.

A string is read in one way only (`ReadsUnits.unique`), since no piece of a string is the
beginning of another.  How a value starts tells which kind it is (`Json.Reads.opens`), so what
stands behind the opening mark of a string, an array or an object settles how it is read.  For a
sequence that is written with its items on lines of their own, this is settled item by item
(`readsSequence_lines_iff`).
-/

namespace SpringAudit

/-! ## Sixteen-bit units -/

/-- The sixteen-bit units of a code point: above U+FFFF they are a surrogate pair. -/
def CodePoint.utf16 (c : CodePoint) : List Nat :=
  if c.toNat < 0x10000 then [c.toNat]
  else [0xD800 + (c.toNat - 0x10000) / 0x400, 0xDC00 + (c.toNat - 0x10000) % 0x400]

/-- The sixteen-bit units of a text. -/
def Text.utf16 (t : Text) : List Nat :=
  t.flatMap CodePoint.utf16

/-! ## The grammar -/

/-- A JSON value; a number is given by how it is written. -/
inductive Json where
  | null
  | boolean (value : Bool)
  | number (spelling : Text)
  | string (units : List Nat)
  | array (elements : List Json)
  | object (members : List (List Nat × Json))

/-- Space, tab, line feed and carriage return. -/
def CodePoint.isJsonBlank (c : CodePoint) : Bool :=
  c.toNat = 0x20 || c.toNat = 0x09 || c.toNat = 0x0A || c.toNat = 0x0D

/-- A text behind the blanks it starts with. -/
def skipBlanks (t : Text) : Text :=
  t.dropWhile CodePoint.isJsonBlank

/-- The code points that stand for a unit behind a backslash. -/
def shortEscapes : List (CodePoint × Nat) :=
  [('"', 0x22), ('\\', 0x5C), ('/', 0x2F), ('b', 0x08), ('f', 0x0C), ('n', 0x0A), ('r', 0x0D),
    ('t', 0x09)]

/-- A piece of a string and the units it stands for: a code point that is neither a control
character nor a mark, or an escape. -/
inductive IsPiece : Text → List Nat → Prop where
  | plain {c : CodePoint} (hShown : 0x20 ≤ c.toNat) (hMark : c ≠ '"') (hBackslash : c ≠ '\\') :
      IsPiece [c] c.utf16
  | short {c : CodePoint} {unit : Nat} (hShort : shortEscapes.lookup c = some unit) :
      IsPiece ['\\', c] [unit]
  | digits {digits : Text} (hWidth : digits.length = 4)
      (hDigits : ∀ c ∈ digits, c.isHexDigit = true) :
      IsPiece ('\\' :: 'u' :: digits) [numeral 16 digits]

/-- The pieces of a string up to the closing mark. -/
inductive ReadsUnits : List Nat → Text → Text → Prop where
  | close {rest : Text} : ReadsUnits [] ('"' :: rest) rest
  | piece {units more : List Nat} {written t rest : Text} (hPiece : IsPiece written units)
      (hMore : ReadsUnits more t rest) : ReadsUnits (units ++ more) (written ++ t) rest

/-- At least one decimal digit and nothing else. -/
def AreDigits (t : Text) : Prop :=
  t ≠ [] ∧ ∀ c ∈ t, c.isAsciiDigit = true

/-- Digits without a leading zero. -/
def IsWhole (t : Text) : Prop :=
  AreDigits t ∧ (t.head? = some ('0' : CodePoint) → t = "0")

def IsFraction (t : Text) : Prop :=
  t = [] ∨ ∃ digits : Text, t = ('.' : CodePoint) :: digits ∧ AreDigits digits

def IsExponent (t : Text) : Prop :=
  t = [] ∨ ∃ (letter : CodePoint) (sign digits : Text), t = letter :: (sign ++ digits) ∧
    (letter = 'e' ∨ letter = 'E') ∧ (sign = [] ∨ sign = "-" ∨ sign = "+") ∧ AreDigits digits

/-- How a number is written. -/
inductive IsNumber : Text → Prop where
  | mk {sign whole fraction exponent : Text} (hSign : sign = [] ∨ sign = "-")
      (hWhole : IsWhole whole) (hFraction : IsFraction fraction)
      (hExponent : IsExponent exponent) : IsNumber (sign ++ whole ++ fraction ++ exponent)

section Sequences

variable {α : Type} (item : α → Text → Text → Prop) (closing : CodePoint)

/-- The items of a sequence behind its first item, up to the closing mark. -/
inductive ReadsItems : List α → Text → Text → Prop where
  | close {rest : Text} : ReadsItems [] (closing :: rest) rest
  | next {a : α} {items : List α} {t u rest : Text} (hItem : item a (skipBlanks t) u)
      (hItems : ReadsItems items (skipBlanks u) rest) : ReadsItems (a :: items) (',' :: t) rest

/-- The items of a sequence, up to the closing mark. -/
inductive ReadsSequence : List α → Text → Text → Prop where
  | empty {t rest : Text} (hClose : skipBlanks t = closing :: rest) : ReadsSequence [] t rest
  | some {a : α} {items : List α} {t u rest : Text} (hItem : item a (skipBlanks t) u)
      (hItems : ReadsItems item closing items (skipBlanks u) rest) :
      ReadsSequence (a :: items) t rest

end Sequences

/-- A member of an object, if `value` reads what stands behind the colon. -/
inductive ReadsMember (value : Json → Text → Text → Prop) :
    List Nat × Json → Text → Text → Prop where
  | mk {name : List Nat} {v : Json} {t u w rest : Text} (hName : ReadsUnits name t u)
      (hColon : skipBlanks u = (':' : CodePoint) :: w) (hValue : value v (skipBlanks w) rest) :
      ReadsMember value (name, v) ('"' :: t) rest

/-- A text starts with a written form of a value. -/
inductive Json.Reads : Json → Text → Text → Prop where
  | null {rest : Text} : Reads .null ("null" ++ rest) rest
  | boolean {value : Bool} {rest : Text} :
      Reads (.boolean value) ((if value then ("true" : Text) else "false") ++ rest) rest
  | number {spelling rest : Text} (h : IsNumber spelling) :
      Reads (.number spelling) (spelling ++ rest) rest
  | string {units : List Nat} {t rest : Text} (h : ReadsUnits units t rest) :
      Reads (.string units) ('"' :: t) rest
  | array {elements : List Json} {t rest : Text}
      (h : ReadsSequence Reads ']' elements t rest) : Reads (.array elements) ('[' :: t) rest
  | object {members : List (List Nat × Json)} {t rest : Text}
      (h : ReadsSequence (ReadsMember Reads) '}' members t rest) :
      Reads (.object members) ('{' :: t) rest

/-- The whole of a text is a written form of a value, with blanks around it. -/
def Json.Denotes (t : Text) (v : Json) : Prop :=
  ∃ rest, Reads v (skipBlanks t) rest ∧ skipBlanks rest = []

/-! ## Blanks -/

section Blanks

variable {c : CodePoint} {t : Text}

theorem skipBlanks_cons_of_blank (h : c.isJsonBlank = true) :
    skipBlanks (c :: t) = skipBlanks t :=
  List.dropWhile_cons_of_pos h

theorem skipBlanks_cons_of_not_blank (h : c.isJsonBlank = false) :
    skipBlanks (c :: t) = c :: t :=
  List.dropWhile_cons_of_neg (by rw [h]; exact Bool.false_ne_true)

end Blanks

/-! ## Strings -/

theorem IsPiece.exists_cons {written : Text} {units : List Nat} (h : IsPiece written units) :
    ∃ c rest, written = c :: rest ∧ c ≠ '"' := by
  cases h with
  | plain hShown hMark hBackslash => exact ⟨_, _, rfl, hMark⟩
  | short hShort => exact ⟨_, _, rfl, by decide⟩
  | digits hWidth hDigits => exact ⟨_, _, rfl, by decide⟩

/-- No piece of a string is the beginning of another, and a piece stands for the same units
everywhere. -/
theorem IsPiece.unique {written written' t t' : Text} {units units' : List Nat}
    (h : IsPiece written units) (h' : IsPiece written' units')
    (hText : written ++ t = written' ++ t') : units = units' ∧ t = t' := by
  have hNoShort : shortEscapes.lookup ('u' : CodePoint) = none := by decide
  cases h with
  | plain hShown hMark hBackslash =>
      cases h' with
      | plain =>
          obtain ⟨rfl, rfl⟩ := List.cons.inj hText
          exact ⟨rfl, rfl⟩
      | short => exact absurd (List.cons.inj hText).1 hBackslash
      | digits => exact absurd (List.cons.inj hText).1 hBackslash
  | short hShort =>
      cases h' with
      | plain _ _ hBackslash => exact absurd (List.cons.inj hText).1.symm hBackslash
      | short hShort' =>
          obtain ⟨rfl, rfl⟩ := List.cons.inj (List.cons.inj hText).2
          rw [hShort, Option.some.injEq] at hShort'
          exact ⟨congrArg ([·]) hShort', rfl⟩
      | digits =>
          rw [(List.cons.inj (List.cons.inj hText).2).1, hNoShort] at hShort
          cases hShort
  | digits hWidth hDigits =>
      cases h' with
      | plain _ _ hBackslash => exact absurd (List.cons.inj hText).1.symm hBackslash
      | short hShort' =>
          rw [← (List.cons.inj (List.cons.inj hText).2).1, hNoShort] at hShort'
          cases hShort'
      | digits hWidth' hDigits' =>
          obtain ⟨rfl, rfl⟩ := List.append_inj (List.cons.inj (List.cons.inj hText).2).2
            (hWidth.trans hWidth'.symm)
          exact ⟨rfl, rfl⟩

/-- A string is read in one way only. -/
theorem ReadsUnits.unique {units units' : List Nat} {t rest rest' : Text}
    (h : ReadsUnits units t rest) (h' : ReadsUnits units' t rest') :
    units = units' ∧ rest = rest' := by
  induction h generalizing units' with
  | close =>
      generalize hText : (_ :: _ : Text) = text at h'
      cases h' with
      | close => exact ⟨rfl, (List.cons.inj hText).2⟩
      | piece hPiece hMore =>
          obtain ⟨c, written, rfl, hMark⟩ := hPiece.exists_cons
          exact absurd (List.cons.inj hText).1.symm hMark
  | piece hPiece hMore ih =>
      generalize hText : (_ ++ _ : Text) = text at h'
      cases h' with
      | close =>
          obtain ⟨c, written, rfl, hMark⟩ := hPiece.exists_cons
          exact absurd (List.cons.inj hText).1 hMark
      | piece hPiece' hMore' =>
          obtain ⟨rfl, rfl⟩ := hPiece.unique hPiece' hText
          obtain ⟨rfl, rfl⟩ := ih hMore'
          exact ⟨rfl, rfl⟩

/-! ## How values start -/

/-- Whether a written form of a value may start with a code point. -/
def Json.opens (c : CodePoint) : Json → Bool
  | .null => c = 'n'
  | .boolean value => c = if value then 't' else 'f'
  | .number _ => c = '-' || c.isAsciiDigit
  | .string _ => c = '"'
  | .array _ => c = '['
  | .object _ => c = '{'

theorem IsNumber.exists_cons {spelling : Text} (h : IsNumber spelling) :
    ∃ c rest, spelling = c :: rest ∧ (decide (c = '-') || c.isAsciiDigit) = true := by
  cases h with
  | mk hSign hWhole hFraction hExponent =>
      obtain ⟨⟨hSome, hDigits⟩, -⟩ := hWhole
      obtain ⟨c, whole, rfl⟩ := List.exists_cons_of_ne_nil hSome
      rcases hSign with rfl | rfl
      · exact ⟨c, _, rfl, by rw [hDigits c List.mem_cons_self, Bool.or_true]⟩
      · exact ⟨'-', _, rfl, rfl⟩

theorem Json.Reads.opens {v : Json} {c : CodePoint} {t rest : Text} (h : Reads v (c :: t) rest) :
    v.opens c = true := by
  generalize hText : c :: t = text at h
  cases h with
  | null =>
      obtain rfl := (List.cons.inj hText).1
      rfl
  | @boolean value rest =>
      cases value with
      | true =>
          obtain rfl := (List.cons.inj hText).1
          rfl
      | false =>
          obtain rfl := (List.cons.inj hText).1
          rfl
  | number h =>
      obtain ⟨d, more, hCons, hStart⟩ := h.exists_cons
      rw [hCons] at hText
      obtain rfl := (List.cons.inj hText).1
      exact hStart
  | string h =>
      obtain rfl := (List.cons.inj hText).1
      rfl
  | array h =>
      obtain rfl := (List.cons.inj hText).1
      rfl
  | object h =>
      obtain rfl := (List.cons.inj hText).1
      rfl

section Inversions

variable {v : Json} {t rest : Text}

theorem reads_string_iff :
    Json.Reads v ('"' :: t) rest ↔ ∃ units, v = .string units ∧ ReadsUnits units t rest := by
  constructor
  · intro h
    match v, h.opens, h with
    | .number _, hOpens, _ => cases hOpens
    | .string units, _, .string hUnits => exact ⟨units, rfl, hUnits⟩
  · rintro ⟨units, rfl, hUnits⟩
    exact .string hUnits

theorem reads_array_iff :
    Json.Reads v ('[' :: t) rest ↔
      ∃ elements, v = .array elements ∧ ReadsSequence Json.Reads ']' elements t rest := by
  constructor
  · intro h
    match v, h.opens, h with
    | .number _, hOpens, _ => cases hOpens
    | .array elements, _, .array hElements => exact ⟨elements, rfl, hElements⟩
  · rintro ⟨elements, rfl, hElements⟩
    exact .array hElements

theorem reads_object_iff :
    Json.Reads v ('{' :: t) rest ↔
      ∃ members, v = .object members ∧
        ReadsSequence (ReadsMember Json.Reads) '}' members t rest := by
  constructor
  · intro h
    match v, h.opens, h with
    | .number _, hOpens, _ => cases hOpens
    | .object members, _, .object hMembers => exact ⟨members, rfl, hMembers⟩
  · rintro ⟨members, rfl, hMembers⟩
    exact .object hMembers

theorem not_reads_closing : ¬ Json.Reads v (']' :: t) rest := by
  intro h
  match v, h.opens with
  | .number _, hOpens => cases hOpens
  | .boolean true, hOpens => cases hOpens
  | .boolean false, hOpens => cases hOpens

theorem not_readsMember_closing {member : List Nat × Json} :
    ¬ ReadsMember Json.Reads member ('}' :: t) rest := by
  intro h
  cases h

end Inversions

/-! ## Sequences on lines -/

section Lines

variable {α β : Type} {item : β → Text → Text → Prop} {closing : CodePoint} {write : α → Text}
  {value : α → β} {as : List α} {bs : List β} {t ending more rest : Text}

/-- What is written for an item is read as its value, with blanks before it and whatever follows,
and in no other way. -/
def Writes (item : β → Text → Text → Prop) (write : α → Text) (value : α → β) : Prop :=
  ∀ a b t rest, item b (skipBlanks (write a ++ t)) rest ↔ b = value a ∧ rest = t

theorem Writes.reads (h : Writes item write value) (a : α) (t : Text) :
    item (value a) (skipBlanks (write a ++ t)) t :=
  (h a _ _ _).2 ⟨rfl, rfl⟩

theorem readsItems_next_iff (hClosing : closing ≠ ',') :
    ReadsItems item closing bs (',' :: t) rest ↔
      ∃ b items u, bs = b :: items ∧ item b (skipBlanks t) u ∧
        ReadsItems item closing items (skipBlanks u) rest := by
  constructor
  · intro h
    cases h with
    | close => exact absurd rfl hClosing
    | next hItem hItems => exact ⟨_, _, _, rfl, hItem, hItems⟩
  · rintro ⟨b, items, u, rfl, hItem, hItems⟩
    exact .next hItem hItems

theorem readsItems_close_iff (hClosing : closing ≠ ',') :
    ReadsItems item closing bs (closing :: t) rest ↔ bs = [] ∧ rest = t := by
  constructor
  · intro h
    cases h with
    | close => exact ⟨rfl, rfl⟩
    | next => exact absurd rfl hClosing
  · rintro ⟨rfl, rfl⟩
    exact .close

/-- Behind the first item, the items that are written are read, in their order, and no other. -/
theorem readsItems_lines_iff (hClosing : closing ≠ ',')
    (hWrites : Writes item write value) (hEnding : skipBlanks ending = closing :: more) :
    ReadsItems item closing bs
        (skipBlanks (as.flatMap (fun a => (",\n" : Text) ++ write a) ++ ending)) rest ↔
      bs = as.map value ∧ rest = more := by
  induction as generalizing bs with
  | nil =>
      rw [List.flatMap_nil, List.nil_append, hEnding, readsItems_close_iff hClosing]
      rfl
  | cons a as ih =>
      have hLine (t : Text) :
          skipBlanks ((",\n" : Text) ++ t) = (',' : CodePoint) :: ('\n' : CodePoint) :: t :=
        skipBlanks_cons_of_not_blank rfl
      have hFeed (t : Text) : skipBlanks (('\n' : CodePoint) :: t) = skipBlanks t :=
        skipBlanks_cons_of_blank rfl
      simp only [List.flatMap_cons, List.append_assoc, hLine, readsItems_next_iff hClosing, hFeed,
        hWrites a, List.map_cons]
      constructor
      · rintro ⟨b, items, u, rfl, ⟨rfl, rfl⟩, hItems⟩
        obtain ⟨rfl, rfl⟩ := ih.1 hItems
        exact ⟨rfl, rfl⟩
      · rintro ⟨rfl, rfl⟩
        exact ⟨_, _, _, rfl, ⟨rfl, rfl⟩, ih.2 ⟨rfl, rfl⟩⟩

theorem readsSequence_empty_iff (hStart : ∀ b t rest, ¬ item b (closing :: t) rest)
    (hClose : skipBlanks t = closing :: more) :
    ReadsSequence item closing bs t rest ↔ bs = [] ∧ rest = more := by
  constructor
  · intro h
    cases h with
    | empty hClose' => exact ⟨rfl, (List.cons.inj (hClose'.symm.trans hClose)).2⟩
    | some hItem hItems =>
        rw [hClose] at hItem
        exact absurd hItem (hStart _ _ _)
  · rintro ⟨rfl, rfl⟩
    exact .empty hClose

/-- The items that are written on lines of their own are read, in their order, and no other. -/
theorem readsSequence_lines_iff (hClosing : closing ≠ ',')
    (hStart : ∀ b t rest, ¬ item b (closing :: t) rest) (hWrites : Writes item write value)
    (hEnding : skipBlanks ending = closing :: more) (hSome : as ≠ []) :
    ReadsSequence item closing bs
        (('\n' : CodePoint) :: (Text.join ",\n" (as.map write) ++ ending)) rest ↔
      bs = as.map value ∧ rest = more := by
  have hFeed (t : Text) : skipBlanks (('\n' : CodePoint) :: t) = skipBlanks t :=
    skipBlanks_cons_of_blank rfl
  obtain ⟨a, as, rfl⟩ := List.exists_cons_of_ne_nil hSome
  rw [List.map_cons, Text.join_cons, List.append_assoc, List.flatMap_map]
  constructor
  · intro h
    cases h with
    | empty hClose =>
        have hFirst := hWrites.reads a (as.flatMap ((",\n" : Text) ++ write ·) ++ ending)
        rw [← hFeed, hClose] at hFirst
        exact absurd hFirst (hStart _ _ _)
    | some hFirst hItems =>
        rw [hFeed, hWrites] at hFirst
        obtain ⟨rfl, rfl⟩ := hFirst
        obtain ⟨rfl, rfl⟩ := (readsItems_lines_iff hClosing hWrites hEnding).1 hItems
        exact ⟨rfl, rfl⟩
  · rintro ⟨rfl, rfl⟩
    refine .some ?_ ((readsItems_lines_iff hClosing hWrites hEnding).2 ⟨rfl, rfl⟩)
    rw [hFeed]
    exact hWrites.reads a _

end Lines

section Values

variable {α : Type} {write : α → Text} {as : List α} {v : Json} {t ending more rest : Text}

theorem reads_emptyArray_iff (hClose : skipBlanks t = (']' : CodePoint) :: more) :
    Json.Reads v ('[' :: t) rest ↔ v = .array [] ∧ rest = more := by
  have hElements (elements : List Json) :
      ReadsSequence Json.Reads ']' elements t rest ↔ elements = [] ∧ rest = more :=
    readsSequence_empty_iff (fun _ _ _ => not_reads_closing) hClose
  rw [reads_array_iff]
  simp only [hElements, and_left_comm, exists_eq_left]

theorem reads_array_lines_iff {value : α → Json} (hWrites : Writes Json.Reads write value)
    (hEnding : skipBlanks ending = (']' : CodePoint) :: more) (hSome : as ≠ []) :
    Json.Reads v ('[' :: '\n' :: (Text.join ",\n" (as.map write) ++ ending)) rest ↔
      v = .array (as.map value) ∧ rest = more := by
  have hElements (elements : List Json) : ReadsSequence Json.Reads ']' elements
      ('\n' :: (Text.join ",\n" (as.map write) ++ ending)) rest ↔
        elements = as.map value ∧ rest = more :=
    readsSequence_lines_iff (by decide) (fun _ _ _ => not_reads_closing) hWrites hEnding hSome
  rw [reads_array_iff]
  simp only [hElements, and_left_comm, exists_eq_left]

theorem reads_object_lines_iff {value : α → List Nat × Json}
    (hWrites : Writes (ReadsMember Json.Reads) write value)
    (hEnding : skipBlanks ending = ('}' : CodePoint) :: more) (hSome : as ≠ []) :
    Json.Reads v ('{' :: '\n' :: (Text.join ",\n" (as.map write) ++ ending)) rest ↔
      v = .object (as.map value) ∧ rest = more := by
  have hMembers (members : List (List Nat × Json)) : ReadsSequence (ReadsMember Json.Reads) '}'
      members ('\n' :: (Text.join ",\n" (as.map write) ++ ending)) rest ↔
        members = as.map value ∧ rest = more :=
    readsSequence_lines_iff (by decide) (fun _ _ _ => not_readsMember_closing) hWrites hEnding
      hSome
  rw [reads_object_iff]
  simp only [hMembers, and_left_comm, exists_eq_left]

end Values

end SpringAudit

import SpringAudit.Proofs.Report.JsonGrammar
import SpringAudit.Report.Text

/-!
# The report in JSON is read back

What the report writes for a text is a JSON string with the same sixteen-bit units
(`reads_jsonString_iff`), whatever the text holds.  So the report denotes the array of its
endpoints, each with its fields in their order, and nothing else, and it is all ASCII
(`jsonReport_denotes`).
-/

namespace SpringAudit

/-! ## ASCII -/

/-- All code points of a text are in ASCII. -/
def Text.IsAscii (t : Text) : Prop :=
  ∀ c ∈ t, c.toNat < 0x80

instance (t : Text) : Decidable t.IsAscii :=
  inferInstanceAs (Decidable (∀ c ∈ t, c.toNat < 0x80))

theorem Text.IsAscii.append {s t : Text} (hs : s.IsAscii) (ht : t.IsAscii) :
    Text.IsAscii (s ++ t) := by
  intro c hMem
  rcases List.mem_append.1 hMem with hMem | hMem
  · exact hs c hMem
  · exact ht c hMem

theorem Text.IsAscii.join {between : Text} {texts : List Text} (hBetween : between.IsAscii)
    (hTexts : ∀ t ∈ texts, t.IsAscii) : (join between texts).IsAscii := by
  intro c hMem
  rcases mem_join hMem with hMem | ⟨t, hText, hMem⟩
  · exact hBetween c hMem
  · exact hTexts t hText c hMem

/-! ## Strings -/

theorem IsPiece.jsonUnit {n : Nat} (h : n < 0x10000) : IsPiece (jsonUnit n) [n] := by
  have hPiece : IsPiece ('\\' :: 'u' :: Text.hex 4 n) [numeral 16 (Text.hex 4 n)] :=
    .digits (Text.length_hex 4 n) fun _ hMem => Text.isHexDigit_of_mem_hex hMem
  rw [Text.numeral_hex_of_lt h] at hPiece
  exact hPiece

theorem isAscii_jsonUnit (n : Nat) : (jsonUnit n).IsAscii := by
  have hDigits : (Text.hex 4 n).IsAscii := by
    intro c hMem
    have hShown := CodePoint.isShownAscii_of_isHexDigit (Text.isHexDigit_of_mem_hex hMem)
    exact Nat.lt_of_le_of_lt hShown.2 (by decide)
  exact .append (by decide) hDigits

/-- A code point is written as one piece in ASCII, or as two units of a surrogate pair. -/
theorem jsonCharacter_cases (c : CodePoint) :
    (IsPiece (jsonCharacter c) c.utf16 ∧ (jsonCharacter c).IsAscii) ∨
      ∃ lead trail, lead < 0x10000 ∧ trail < 0x10000 ∧ c.utf16 = [lead, trail] ∧
        jsonCharacter c = jsonUnit lead ++ jsonUnit trail := by
  have hOne {written : Text} (hLow : c.toNat < 0x10000) (hPiece : IsPiece written [c.toNat]) :
      IsPiece written c.utf16 := by
    rw [CodePoint.utf16, if_pos hLow]
    exact hPiece
  unfold jsonCharacter
  by_cases hMark : c = '"'
  · rw [if_pos hMark, hMark]
    exact .inl ⟨.short rfl, by decide⟩
  rw [if_neg hMark]
  by_cases hBackslash : c = '\\'
  · rw [if_pos hBackslash, hBackslash]
    exact .inl ⟨.short rfl, by decide⟩
  rw [if_neg hBackslash]
  by_cases hFeed : c = '\n'
  · rw [if_pos hFeed, hFeed]
    exact .inl ⟨.short rfl, by decide⟩
  rw [if_neg hFeed]
  by_cases hReturn : c = '\r'
  · rw [if_pos hReturn, hReturn]
    exact .inl ⟨.short rfl, by decide⟩
  rw [if_neg hReturn]
  by_cases hTab : c = '\t'
  · rw [if_pos hTab, hTab]
    exact .inl ⟨.short rfl, by decide⟩
  rw [if_neg hTab]
  by_cases hPage : c.toNat = 0x0C
  · rw [if_pos hPage]
    exact .inl ⟨hOne (by omega) (hPage ▸ .short rfl), by decide⟩
  rw [if_neg hPage]
  by_cases hBack : c.toNat = 0x08
  · rw [if_pos hBack]
    exact .inl ⟨hOne (by omega) (hBack ▸ .short rfl), by decide⟩
  rw [if_neg hBack]
  by_cases hShown : 0x20 ≤ c.toNat ∧ c.toNat ≤ 0x7E
  · rw [if_pos hShown]
    have hAscii : Text.IsAscii [c] := by
      intro d hMem
      obtain rfl := List.mem_singleton.1 hMem
      exact Nat.lt_of_le_of_lt hShown.2 (by decide)
    exact .inl ⟨.plain hShown.1 hMark hBackslash, hAscii⟩
  rw [if_neg hShown]
  by_cases hLow : c.toNat < 0x10000
  · rw [if_pos hLow]
    exact .inl ⟨hOne hLow (.jsonUnit hLow), isAscii_jsonUnit _⟩
  · rw [if_neg hLow]
    have hBound := c.isLt
    exact .inr ⟨_, _, by omega, by omega, if_neg hLow, rfl⟩

theorem isAscii_jsonCharacter (c : CodePoint) : (jsonCharacter c).IsAscii := by
  rcases jsonCharacter_cases c with ⟨-, hAscii⟩ | ⟨lead, trail, -, -, -, hPair⟩
  · exact hAscii
  · rw [hPair]
    exact (isAscii_jsonUnit lead).append (isAscii_jsonUnit trail)

theorem isAscii_jsonString (t : Text) : (jsonString t).IsAscii := by
  have hBody : Text.IsAscii (t.flatMap jsonCharacter) := by
    intro d hMem
    obtain ⟨c, -, hPiece⟩ := List.mem_flatMap.1 hMem
    exact isAscii_jsonCharacter c d hPiece
  exact (Text.IsAscii.append (by decide) hBody).append (by decide)

/-- What is written for a code point is read as its units. -/
theorem ReadsUnits.jsonCharacter {units : List Nat} {t rest : Text}
    (h : ReadsUnits units t rest) (c : CodePoint) :
    ReadsUnits (c.utf16 ++ units) (jsonCharacter c ++ t) rest := by
  rcases jsonCharacter_cases c with ⟨hPiece, -⟩ | ⟨lead, trail, hLead, hTrail, hUnits, hPair⟩
  · exact .piece hPiece h
  · have hBoth := ReadsUnits.piece (.jsonUnit hLead) (.piece (.jsonUnit hTrail) h)
    rw [hUnits, hPair, List.append_assoc]
    exact hBoth

theorem readsUnits_flatMap (t rest : Text) :
    ReadsUnits t.utf16 (t.flatMap jsonCharacter ++ ('"' : CodePoint) :: rest) rest := by
  induction t with
  | nil => exact .close
  | cons c t ih =>
      rw [Text.utf16, List.flatMap_cons, List.flatMap_cons, List.append_assoc]
      exact ih.jsonCharacter c

/-- What is written for a text is read as its units, and in no other way. -/
theorem readsUnits_flatMap_iff {units : List Nat} {t rest more : Text} :
    ReadsUnits units (t.flatMap jsonCharacter ++ ('"' : CodePoint) :: rest) more ↔
      units = t.utf16 ∧ more = rest := by
  constructor
  · exact fun h => h.unique (readsUnits_flatMap t rest)
  · rintro ⟨rfl, rfl⟩
    exact readsUnits_flatMap t more

theorem jsonString_append (t rest : Text) :
    jsonString t ++ rest =
      ('"' : CodePoint) :: (t.flatMap jsonCharacter ++ ('"' : CodePoint) :: rest) := by
  rw [jsonString, List.append_assoc, List.append_assoc]
  rfl

theorem reads_jsonString_iff {v : Json} {t rest more : Text} :
    Json.Reads v (jsonString t ++ rest) more ↔ v = .string t.utf16 ∧ more = rest := by
  rw [jsonString_append, reads_string_iff]
  constructor
  · rintro ⟨units, rfl, hUnits⟩
    obtain ⟨rfl, rfl⟩ := readsUnits_flatMap_iff.1 hUnits
    exact ⟨rfl, rfl⟩
  · rintro ⟨rfl, rfl⟩
    exact ⟨_, rfl, readsUnits_flatMap t more⟩

/-! ## Endpoints -/

namespace Endpoint

/-- A field with its name, as it stands in an object. -/
def jsonMember (e : Endpoint) (field : Field) : Text :=
  "    " ++ jsonString field.name ++ ": " ++ jsonString (field.read e)

/-- The name and the value of a field. -/
def member (e : Endpoint) (field : Field) : List Nat × Json :=
  (field.name.utf16, .string (field.read e).utf16)

/-- An endpoint as JSON value. -/
def json (e : Endpoint) : Json :=
  .object (Field.all.map e.member)

theorem writes_jsonMember (e : Endpoint) :
    Writes (ReadsMember Json.Reads) e.jsonMember e.member := by
  intro field member t rest
  have hText : skipBlanks (e.jsonMember field ++ t) =
      ('"' : CodePoint) :: (field.name.flatMap jsonCharacter ++
        ('"' : CodePoint) :: (": " ++ (jsonString (field.read e) ++ t))) := by
    rw [jsonMember, List.append_assoc, List.append_assoc, List.append_assoc, jsonString_append]
    rfl
  have hColon : skipBlanks (": " ++ (jsonString (field.read e) ++ t)) =
      (':' : CodePoint) :: (' ' : CodePoint) :: (jsonString (field.read e) ++ t) := rfl
  have hValue : skipBlanks ((' ' : CodePoint) :: (jsonString (field.read e) ++ t)) =
      jsonString (field.read e) ++ t := rfl
  rw [hText]
  constructor
  · intro h
    cases h with
    | mk hName hColon' hRead =>
        obtain ⟨rfl, rfl⟩ := readsUnits_flatMap_iff.1 hName
        obtain rfl := (List.cons.inj (hColon.symm.trans hColon')).2
        rw [hValue] at hRead
        obtain ⟨rfl, rfl⟩ := reads_jsonString_iff.1 hRead
        exact ⟨rfl, rfl⟩
  · rintro ⟨rfl, rfl⟩
    refine .mk (readsUnits_flatMap _ _) hColon ?_
    rw [hValue]
    exact reads_jsonString_iff.2 ⟨rfl, rfl⟩

theorem writes_jsonObject : Writes Json.Reads jsonObject json := by
  intro e v t rest
  have hText : skipBlanks (e.jsonObject ++ t) =
      ('{' : CodePoint) :: ('\n' : CodePoint) ::
        (Text.join ",\n" (Field.all.map e.jsonMember) ++ ("\n  \x7d" ++ t)) := by
    rw [jsonObject, List.append_assoc, List.append_assoc]
    rfl
  have hEnding : skipBlanks ("\n  \x7d" ++ t) = ('}' : CodePoint) :: t := rfl
  rw [hText]
  exact reads_object_lines_iff e.writes_jsonMember hEnding (List.cons_ne_nil _ _)

theorem isAscii_jsonMember (e : Endpoint) (field : Field) :
    (e.jsonMember field).IsAscii :=
  have hName : Text.IsAscii ("    " ++ jsonString field.name) :=
    .append (by decide) (isAscii_jsonString _)
  (hName.append (by decide)).append (isAscii_jsonString _)

theorem isAscii_jsonObject (e : Endpoint) : e.jsonObject.IsAscii := by
  have hMembers : (Text.join ",\n" (Field.all.map e.jsonMember)).IsAscii := by
    refine .join (by decide) ?_
    rw [List.forall_mem_map]
    exact fun field _ => e.isAscii_jsonMember field
  exact (Text.IsAscii.append (by decide) hMembers).append (by decide)

end Endpoint

theorem isAscii_jsonReport (endpoints : List Endpoint) : (jsonReport endpoints).IsAscii := by
  have hObjects : (Text.join ",\n" (endpoints.map Endpoint.jsonObject)).IsAscii := by
    refine .join (by decide) ?_
    rw [List.forall_mem_map]
    exact fun e _ => e.isAscii_jsonObject
  unfold jsonReport
  split
  · decide
  · exact (Text.IsAscii.append (by decide) hObjects).append (by decide)

/-! ## The report -/

/-- The report starts with the array of its endpoints, and nothing is left. -/
theorem reads_jsonReport_iff {endpoints : List Endpoint} {v : Json} {rest : Text} :
    Json.Reads v (jsonReport endpoints) rest ↔
      v = .array (endpoints.map Endpoint.json) ∧ rest = [] := by
  cases endpoints with
  | nil => exact reads_emptyArray_iff (t := "]") rfl
  | cons e endpoints =>
      have hText : jsonReport (e :: endpoints) =
          ('[' : CodePoint) :: ('\n' : CodePoint) ::
            (Text.join ",\n" ((e :: endpoints).map Endpoint.jsonObject) ++ "\n]") := by
        rw [jsonReport, List.append_assoc]
        rfl
      have hEnding : skipBlanks "\n]" = (']' : CodePoint) :: [] := rfl
      rw [hText]
      exact reads_array_lines_iff Endpoint.writes_jsonObject hEnding (List.cons_ne_nil _ _)

theorem skipBlanks_jsonReport (endpoints : List Endpoint) :
    skipBlanks (jsonReport endpoints) = jsonReport endpoints := by
  cases endpoints <;> exact skipBlanks_cons_of_not_blank rfl

/-- The report is in ASCII, and as a JSON text it denotes the array of its endpoints in their
order and no other value; each endpoint is an object of its fields in their order, and each field
is the string with the same sixteen-bit units. -/
theorem jsonReport_denotes (endpoints : List Endpoint) :
    (jsonReport endpoints).IsAscii ∧
      ∀ v, Json.Denotes (jsonReport endpoints) v ↔ v = .array (endpoints.map Endpoint.json) := by
  refine ⟨isAscii_jsonReport endpoints, fun v => ?_⟩
  constructor
  · rintro ⟨rest, hRead, -⟩
    rw [skipBlanks_jsonReport] at hRead
    exact (reads_jsonReport_iff.1 hRead).1
  · rintro rfl
    refine ⟨[], ?_, rfl⟩
    rw [skipBlanks_jsonReport]
    exact reads_jsonReport_iff.2 ⟨rfl, rfl⟩

end SpringAudit

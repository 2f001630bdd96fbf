import SpringAudit.Proofs.Text.Quoted
import SpringAudit.Report.Text

/-!
# The report in lines tells its endpoints apart

Whatever the fields of the endpoints hold, each of them is one line: nothing but printable code
points stands in a line (`isPrintable_of_mem_line`).  A line can be the line of one endpoint
only, because each quoted field shows where it ends (`line_injective`).  Both together give that
a report has one line for each endpoint and is the report of one list only
(`linesReport_faithful`).
-/

namespace SpringAudit

/-! ## Fields -/

/-- An endpoint is determined by its fields. -/
theorem Endpoint.eq_of_read_eq {e e' : Endpoint}
    (h : ∀ field ∈ Field.all, field.read e = field.read e') : e = e' := by
  simp only [Field.all, List.forall_mem_cons, List.not_mem_nil, false_implies, implies_true,
    and_true, Field.read] at h
  obtain ⟨hUrl, hMethod, hPre, hPost, hPreFilter, hPostFilter⟩ := h
  obtain ⟨url, method, guards⟩ := e
  obtain ⟨url', method', guards'⟩ := e'
  cases guards
  cases guards'
  simp_all

namespace Endpoint

/-- A field with its name, as it stands in a line. -/
def namedField (e : Endpoint) (field : Field) : Text :=
  field.name ++ "=" ++ (field.read e).quoted

theorem line_eq (e : Endpoint) :
    e.line = "RouteRecord(" ++ (Text.join ", " (Field.all.map e.namedField) ++ ")") :=
  List.append_assoc _ _ _

/-- A field shows where it ends, so the same field of another endpoint is written in the same
way only if it holds the same text. -/
theorem namedField_append_inj {e e' : Endpoint} {field : Field} {rest more : Text}
    (h : e.namedField field ++ rest = e'.namedField field ++ more) :
    field.read e = field.read e' ∧ rest = more := by
  simp only [namedField, List.append_assoc] at h
  exact Text.quoted_append_inj (List.append_cancel_left (List.append_cancel_left h))

/-- Fields that are joined in the same way hold the same texts. -/
theorem join_namedField_inj {e e' : Endpoint} {fields : List Field} {rest more : Text}
    (h : Text.join ", " (fields.map e.namedField) ++ rest =
      Text.join ", " (fields.map e'.namedField) ++ more) :
    ∀ field ∈ fields, field.read e = field.read e' := by
  induction fields with
  | nil => exact fun _ hMem => nomatch hMem
  | cons field fields ih =>
      cases fields with
      | nil =>
          rw [List.forall_mem_singleton]
          exact (namedField_append_inj h).1
      | cons next fields =>
          simp only [List.map_cons, Text.join, List.append_assoc] at h ih
          obtain ⟨hField, hRest⟩ := namedField_append_inj h
          rw [List.forall_mem_cons]
          exact ⟨hField, ih (List.append_cancel_left hRest)⟩

theorem line_injective : Function.Injective Endpoint.line := by
  intro e e' h
  rw [line_eq, line_eq] at h
  exact eq_of_read_eq (join_namedField_inj (List.append_cancel_left h))

/-- Nothing but printable code points stands in a line. -/
theorem isPrintable_of_mem_line {e : Endpoint} {c : CodePoint} (h : c ∈ e.line) :
    c.isPrintable = true := by
  -- Outside the quoted fields the text is constant.
  have hConstant (t : Text) (hAscii : ∀ d ∈ t, d.IsShownAscii) (hMem : c ∈ t) :
      c.isPrintable = true := (hAscii c hMem).isPrintable
  have hNames : ∀ field ∈ Field.all, ∀ d ∈ field.name ++ "=", d.IsShownAscii := by decide
  rw [line_eq, List.mem_append, List.mem_append] at h
  rcases h with hStart | hFields | hEnd
  · exact hConstant _ (by decide) hStart
  · rcases Text.mem_join hFields with hBetween | ⟨t, hField, hMem⟩
    · exact hConstant _ (by decide) hBetween
    · obtain ⟨field, hAll, rfl⟩ := List.mem_map.1 hField
      rcases List.mem_append.1 hMem with hName | hQuoted
      · exact hConstant _ (hNames field hAll) hName
      · exact Text.isPrintable_of_mem_quoted hQuoted
  · exact hConstant _ (by decide) hEnd

theorem lineFeed_notMem_line (e : Endpoint) : ('\n' : CodePoint) ∉ e.line := by
  intro hMem
  have hUnprintable : CodePoint.isPrintable '\n' = false := by decide
  rw [isPrintable_of_mem_line hMem] at hUnprintable
  cases hUnprintable

end Endpoint

/-! ## The report -/

/-- The lines of a text that has no line feed after the last; an empty text has none. -/
def Text.lines (t : Text) : List Text :=
  if t.isEmpty then [] else t.splitOn '\n'

theorem lineFeed_notMem_lines (endpoints : List Endpoint) :
    ∀ t ∈ endpoints.map Endpoint.line, ('\n' : CodePoint) ∉ t := by
  rw [List.forall_mem_map]
  exact fun e _ => e.lineFeed_notMem_line

theorem linesReport_cons_ne_nil (e : Endpoint) (endpoints : List Endpoint) :
    linesReport (e :: endpoints) ≠ [] := by
  cases endpoints <;> exact List.cons_ne_nil _ _

/-- The report has one line for each endpoint. -/
theorem lines_linesReport (endpoints : List Endpoint) :
    (linesReport endpoints).lines = endpoints.map Endpoint.line := by
  cases endpoints with
  | nil => rfl
  | cons e endpoints =>
      have hNonempty : (linesReport (e :: endpoints)).isEmpty = false :=
        List.isEmpty_eq_false_iff.2 (linesReport_cons_ne_nil e endpoints)
      have hPlain : ∀ t ∈ (e :: endpoints).map Endpoint.line, ∀ c ∈ t, c ≠ '\n' :=
        fun t hMem c hChar hFeed =>
          lineFeed_notMem_lines (e :: endpoints) t hMem (hFeed ▸ hChar)
      rw [Text.lines, hNonempty]
      exact Text.splitOn_join (List.cons_ne_nil _ _) hPlain

theorem linesReport_injective : Function.Injective linesReport := by
  intro endpoints endpoints' h
  have hLines : endpoints.map Endpoint.line = endpoints'.map Endpoint.line := by
    rw [← lines_linesReport, h, lines_linesReport]
  exact (List.map_inj_right fun _ _ hLine => Endpoint.line_injective hLine).1 hLines

/-- No line of an endpoint holds a line feed, so that those of the report are the ones between
its lines, one line for each endpoint; and different lists of endpoints have different
reports. -/
theorem linesReport_faithful :
    (∀ e : Endpoint, ('\n' : CodePoint) ∉ e.line) ∧
      (∀ endpoints, (linesReport endpoints).count ('\n' : CodePoint) = endpoints.length - 1) ∧
      (∀ endpoints, (linesReport endpoints).lines = endpoints.map Endpoint.line) ∧
      Function.Injective linesReport := by
  refine ⟨Endpoint.lineFeed_notMem_line, fun endpoints => ?_, lines_linesReport,
    linesReport_injective⟩
  have hCount := Text.count_join (lineFeed_notMem_lines endpoints)
  rw [List.length_map] at hCount
  exact hCount

end SpringAudit

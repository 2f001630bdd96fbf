import SpringAudit.Endpoint.Basic

/-!
# The report as a table

The table is given by its content: columns, rows and cells.  Widths and colours
are left to whatever shows it.  Texts from the source tree stand in cells of
their own kind, which drop the control characters that would move the cursor.
-/

namespace SpringAudit

/-- A column of a table. -/
structure Column where
  header : Text
  mayWrap : Bool

/-- A cell of a table. -/
inductive Cell where
  /-- A text that may hold markup. -/
  | markup (text : Text)
  /-- A text that is shown as it is, in a style. -/
  | plain (text style : Text)

/-- A table. -/
structure Table where
  columns : List Column
  rows : List (List Cell)

/-- The control characters that a plain cell drops: bell, backspace, vertical tab, form feed
and carriage return. -/
def droppedInCells (c : CodePoint) : Bool :=
  c.toNat = 0x07 || c.toNat = 0x08 || c.toNat = 0x0B || c.toNat = 0x0C || c.toNat = 0x0D

/-- A cell with a text from the source tree. -/
def Cell.ofText (t style : Text) : Cell :=
  .plain (t.filter fun c => !droppedInCells c) style

/-- The columns of the report. -/
def reportColumns : List Column :=
  [⟨"METHOD", false⟩, ⟨"URL", true⟩, ⟨"PRE-AUTHORIZE", true⟩, ⟨"POST-AUTHORIZE", true⟩,
    ⟨"PRE-FILTER", true⟩, ⟨"POST-FILTER", true⟩]

/-- The row of an endpoint. -/
def Endpoint.row (e : Endpoint) : List Cell :=
  if e.isGuarded then
    [.markup e.httpMethod, .ofText e.url [], .ofText e.guards.preAuthorization [],
      .ofText e.guards.postAuthorization [], .ofText e.guards.preFilter [],
      .ofText e.guards.postFilter []]
  else
    [.markup e.httpMethod, .ofText e.url [], .ofText "UNGUARDED" "bold red", .markup [],
      .markup [], .markup []]

/-- The report as a table. -/
def tableReport (endpoints : List Endpoint) : Table :=
  ⟨reportColumns, endpoints.map Endpoint.row⟩

end SpringAudit

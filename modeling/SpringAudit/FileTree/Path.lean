import SpringAudit.Text.Basic

/-!
# Paths

A path is absolute or not and consists of names.  Empty names and single dots
vanish when a path is read; double dots stay until the path is resolved or
normalized.
-/

namespace SpringAudit

/-- A path. -/
structure Path where
  isAbsolute : Bool
  names : List Text
  deriving DecidableEq

namespace Path

/-- The name that leads to the containing directory. -/
def upward : Text := ".."

/-- The path that a text denotes. -/
def ofText (t : Text) : Path where
  isAbsolute := t.startsWith "/"
  names := (Text.splitOn '/' t).filter fun name => !name.isEmpty && !decide (name = ("." : Text))

/-- The text of a path. -/
def toText (p : Path) : Text :=
  if p.isAbsolute then "/" ++ Text.join "/" p.names
  else if p.names.isEmpty then "."
  else Text.join "/" p.names

/-- The absolute path with given names. -/
def absolute (names : List Text) : Path := ⟨true, names⟩

/-- The path that a text denotes below another path; an absolute one stands for itself. -/
def join (p : Path) (t : Text) : Path :=
  let added := ofText t
  if added.isAbsolute then added else { p with names := p.names ++ added.names }

/-- The last name, which is empty if there is none. -/
def lastName (p : Path) : Text :=
  p.names.getLast?.getD []

/-- The names with each double dot removed together with the name before it. -/
def normalizeNames (names : List Text) : List Text :=
  (names.foldl (fun kept name => if name = upward then kept.drop 1 else name :: kept) []).reverse

/-- What is left of two lists after their longest common beginning. -/
def withoutCommon : List Text → List Text → List Text × List Text
  | a :: s, b :: t => if a = b then withoutCommon s t else (a :: s, b :: t)
  | s, t => (s, t)

/-- The text that leads from one absolute path to another, by names alone. -/
def relativeText (p start : Path) : Text :=
  let (down, up) := withoutCommon (normalizeNames p.names) (normalizeNames start.names)
  toText ⟨false, List.replicate up.length upward ++ down⟩

/-- The order of paths by their names, one after another. -/
def bleNames : List Text → List Text → Bool
  | [], _ => true
  | _ :: _, [] => false
  | a :: s, b :: t => if a = b then bleNames s t else a.ble b

/-- The order of absolute paths. -/
def ble (p q : Path) : Bool :=
  bleNames p.names q.names

end Path

end SpringAudit

import SpringAudit.Xml.Markup

/-!
# Content models

A content model says what an element may contain: nothing, anything, text with
some elements in any order, or groups of elements in sequence or by choice.  Only
its form is looked at.
-/

namespace SpringAudit.Xml

/-- What is left of a content model after a mark that says how often a part occurs. -/
def afterOccurrence (t : Text) : Text :=
  if t.head?.any fun c : CodePoint =>
      decide (c = '?') || decide (c = '*') || decide (c = '+') then t.drop 1
  else t

mutual

/-- Takes a part of a content model within groups, each of which knows the mark between its
parts once there is one.  At most `fuel` parts are read. -/
def modelPart (start : Text) : Nat → List (Option CodePoint) → Text → Reading Text
  | 0, _, t => misfit start t
  | fuel + 1, groups, t => do
    let t := afterSpace t
    if t.startsWith "(" then modelPart start fuel (none :: groups) (t.drop 1)
    else
      let (_, rest) ← declaredName start t
      modelRest start fuel groups (afterOccurrence rest)

/-- Takes what follows a part of a content model within groups. -/
def modelRest (start : Text) : Nat → List (Option CodePoint) → Text → Reading Text
  | _, [], t => .ok t
  | 0, _, t => misfit start t
  | fuel + 1, mark :: groups, t =>
    match afterSpace t with
    | c :: rest =>
      if c = ')' then modelRest start fuel groups (afterOccurrence rest)
      else if c = ',' ∨ c = '|' then
        if (mark.getD c) = c then modelPart start fuel (some c :: groups) rest
        else failAt .malformedMarkup (c :: rest)
      else failAt .invalidToken (c :: rest)
    | [] => failAt .unclosedToken start

end

/-- Takes the names that may stand in text, after the first of them and up to the closing
parenthesis; with names the text may occur any number of times.  At most `fuel` names are
read. -/
def mixedRest (start : Text) (named : Bool) : Nat → Text → Reading Text
  | 0, t => misfit start t
  | fuel + 1, t => do
    let t := afterSpace t
    if t.startsWith "|" then
      let (_, rest) ← declaredName start (afterSpace (t.drop 1))
      mixedRest start true fuel rest
    else if named then expect start ")*" t
    else
      let rest ← expect start ")" t
      return if rest.startsWith "*" then rest.drop 1 else rest

/-- Takes the content model of an element. -/
def contentModel (start t : Text) : Reading Text :=
  if t.startsWith "EMPTY" then .ok (t.drop 5)
  else if t.startsWith "ANY" then .ok (t.drop 3)
  else do
    let inner := afterSpace (← expect start "(" t)
    if inner.startsWith "#PCDATA" then mixedRest start false (inner.length + 1) (inner.drop 7)
    else modelPart start (2 * inner.length + 1) [none] inner

end SpringAudit.Xml

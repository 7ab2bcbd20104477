import CandidateSearch.Query.Group
import CandidateSearch.Query.Marker

/-!
# Clauses

A clause is what a field's marker introduces: a parenthesised group, or plain text up to the next
comma or marker.  `clauses` lists the clauses of a label, `Clause.content` is the text that a clause
contributes, and `extractField` takes the first that is not blank.
-/

namespace CandidateSearch

/-- What stands behind a marker. -/
inductive ClauseBody where
  /-- A group that is never closed. -/
  | unclosed
  /-- The text between the parentheses, and what follows them up to the next marker. -/
  | group (inner tail : Text)
  /-- Text without parentheses up to the next comma or marker. -/
  | plain (value : Text)
  deriving DecidableEq, Repr

/-- A clause of one label: where its value begins, and its value. -/
structure Clause where
  start : Nat
  body : ClauseBody
  deriving DecidableEq, Repr

/-- How far plain text reaches: to the next comma or marker, or to the end. -/
def plainLength (t : Text) : Nat := min (t.lengthBefore (· == ',')) (nextMarker t)

/-- What stands in a query at the position behind a marker. -/
def clauseBodyAt (query : Text) (start : Nat) : ClauseBody :=
  let t := query.drop start
  if t.head? = some '(' then
    match groupEnd query start with
    | none => .unclosed
    | some stop =>
      let beyond := query.drop (stop + 1)
      .group ((query.take stop).drop (start + 1)) (beyond.take (nextMarker beyond))
  else .plain (t.take (plainLength t))

/-- The clauses of a label, in order. -/
def clauses (query label : Text) : List Clause :=
  (labelMarkers query label).map fun m => ⟨m.stop, clauseBodyAt query m.stop⟩

/-- Whether text that trails a group belongs to the clause: it does for keywords alone. -/
def takesTrailingText (label : Text) : Bool := label.lower == ListField.keywords.label.lower

/-- A group and the text that trails it, joined by a space if there is any. -/
def joinTrailing (inner tail : Text) : Text :=
  if tail.trim.isEmpty then inner else inner ++ ' ' :: tail.trim

/-- The text that a clause of a label contributes, or nothing when its group is never closed. -/
def Clause.content (label : Text) (c : Clause) : Option Text :=
  match c.body with
  | .unclosed => none
  | .group inner tail =>
    some (if takesTrailingText label then joinTrailing inner tail else inner)
  | .plain value => some value.trim

/-- The contents of the clauses of a label, in order. -/
def clauseContents (query label : Text) : List (Option Text) :=
  (clauses query label).map (Clause.content label)

/-- The text is there and is not blank. -/
def isUsable (content : Option Text) : Bool :=
  match content with
  | some t => !t.trim.isEmpty
  | none => false

/-- The content of the first clause of a label that is closed and not blank. -/
def extractField (query label : Text) : Option Text :=
  ((clauseContents query label).find? isUsable).join

/-! ## Scalars -/

/-- The value of a scalar at a position: up to the next comma or plus sign, trimmed, in small
letters. -/
def scalarAt (query : Text) (start : Nat) : Text :=
  Text.lower (Text.trim ((query.drop start).takeWhile fun c => c != ',' && c != '+'))

/-- The first value of a label that is not empty. -/
def extractScalar (query label : Text) : Option Text :=
  ((labelMarkers query label).map fun m => scalarAt query m.stop).find? (!·.isEmpty)

end CandidateSearch

import CandidateSearch.Query.Field

/-!
# Field markers

A marker is a plus sign, a label and a colon.  `nextMarker` finds the next marker of any label,
`labelMarkers` every marker of one label, up to case, together with the blanks after it.
-/

namespace CandidateSearch

/-! ## Markers of any label -/

/-- A character that no label of a marker may hold. -/
def endsLabel (c : Char) : Bool :=
  c == ':' || c == '+' || c == ',' || c == '(' || c == ')' || c == '"'

/-- What follows a marker of any label that stands at the beginning of the text. -/
def afterMarker? : Text → Option Text
  | '+' :: rest =>
    match rest.takeWhile (!endsLabel ·), rest.dropWhile (!endsLabel ·) with
    | _ :: _, ':' :: beyond => some beyond
    | _, _ => none
  | _ => none

/-- How far away the next marker of any label begins, or the end of the text. -/
def nextMarker : Text → Nat
  | [] => 0
  | c :: rest => if (afterMarker? (c :: rest)).isSome then 0 else nextMarker rest + 1

/-- The position of the next marker of any label at or after a position, or the length of the
text. -/
def nextMarkerAt (t : Text) (start : Nat) : Nat :=
  min start t.length + nextMarker (t.drop start)

/-! ## Markers of one label -/

/-- What follows a stretch of the text that equals `part` up to case. -/
def afterSameLetters? : Text → Text → Option Text
  | [], t => some t
  | p :: part, c :: t => if sameLetter p c then afterSameLetters? part t else none
  | _ :: _, [] => none

/-- What follows such a stretch is no longer than the text. -/
theorem length_of_afterSameLetters? {part t rest : Text}
    (h : afterSameLetters? part t = some rest) : rest.length ≤ t.length := by
  induction part generalizing t with
  | nil => simp [afterSameLetters?] at h; simp [h]
  | cons p part ih =>
    cases t with
    | nil => simp [afterSameLetters?] at h
    | cons c t =>
      unfold afterSameLetters? at h
      split at h
      · exact Nat.le_succ_of_le (ih h)
      · simp at h

/-- What follows the marker of a label that stands at the beginning of the text, blanks after the
colon included in the marker. -/
def afterLabel? (label : Text) : Text → Option Text
  | '+' :: rest =>
    match afterSameLetters? label rest with
    | some (':' :: beyond) => some (Text.trimStart beyond)
    | _ => none
  | _ => none

/-- What follows a marker is shorter than the text. -/
theorem length_of_afterLabel? {label t rest : Text} (h : afterLabel? label t = some rest) :
    rest.length < t.length := by
  unfold afterLabel? at h
  split at h
  · rename_i r
    split at h
    · rename_i beyond hb
      have h₁ := length_of_afterSameLetters? hb
      have h₂ : (beyond.dropWhile isBlank).length ≤ beyond.length :=
        (List.dropWhile_suffix _).length_le
      cases h
      simp only [List.length_cons, Text.trimStart] at *
      omega
    · simp at h
  · simp at h

/-- A marker in a text: where its plus sign stands, and the position past its colon and the blanks
after that. -/
structure Marker where
  start : Nat
  stop : Nat
  deriving DecidableEq, Repr

/-- The markers of a label in a text that begins at position `pos`. -/
def labelMarkersFrom (label : Text) (pos : Nat) (t : Text) : List Marker :=
  match t with
  | [] => []
  | c :: rest =>
    match h : afterLabel? label (c :: rest) with
    | some beyond =>
      have := length_of_afterLabel? h
      let stop := pos + ((c :: rest).length - beyond.length)
      ⟨pos, stop⟩ :: labelMarkersFrom label stop beyond
    | none => labelMarkersFrom label (pos + 1) rest
  termination_by t.length
  decreasing_by all_goals (simp only [List.length_cons] at *; omega)

/-- The markers of a label, in order. -/
def labelMarkers (query label : Text) : List Marker := labelMarkersFrom label 0 query

/-- The position past the first marker of a label and the blanks after it. -/
def findMarker (query label : Text) : Option Nat :=
  (labelMarkers query label).head?.map (·.stop)

/-- The query holds the marker of some field. -/
def isBooleanQuery (query : Text) : Bool :=
  Field.all.any fun f => (findMarker query f.label).isSome

end CandidateSearch

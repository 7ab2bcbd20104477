import CandidateSearch.Query.Marker
import CandidateSearch.Query.Operator
import CandidateSearch.Text.Html

/-!
# Highlighting

A query is shown as HTML in which field markers, quoted phrases and operators stand in a `span` with
a class of their own.  `segments` cuts the query into what is shown as one piece, `spansOf` says
where the highlighted pieces lie, and `highlight` writes the HTML.  The leftmost match wins, so an
operator inside a phrase stays part of the phrase, and only operators in capitals are shown as such.
-/

namespace CandidateSearch

/-- What a highlighted piece is. -/
inductive Highlight where
  | field
  | phrase
  | operator
  deriving DecidableEq, Repr

/-- A piece of the query: highlighted text, or one character of the text between. -/
inductive Segment where
  | plain (c : Char)
  | marked (kind : Highlight) (text : Text)
  deriving DecidableEq, Repr

/-- The text of the query that the piece shows. -/
def Segment.text : Segment → Text
  | .plain c => [c]
  | .marked _ t => t

/-! ## Matches at the beginning of a text -/

/-- The text begins with a word character. -/
def startsWord (t : Text) : Bool := (t.head?.map isWordCharacter).getD false

/-- The phrase, its quotes included, that the text begins with; an empty phrase is none. -/
def leadingPhrase? : Text → Option Text
  | '"' :: rest =>
    match rest.takeWhile (· != '"'), rest.dropWhile (· != '"') with
    | c :: inner, _ :: _ => some ('"' :: c :: inner ++ ['"'])
    | _, _ => none
  | _ => none

/-- The field marker that the text begins with. -/
def leadingMarker? (t : Text) : Option Text :=
  (afterMarker? t).map fun beyond => t.take (t.length - beyond.length)

/-- The operator in capitals that the text begins with, if it stands alone there. -/
def leadingOperator? (afterWord : Bool) (t : Text) : Option Text :=
  if afterWord then none
  else
    ([.or, .and, .not].map Operator.name).find? fun w =>
      w.isPrefixOf t && !startsWord (t.drop w.length)

/-- The highlighted piece that the text begins with. -/
def leadingMatch? (afterWord : Bool) (t : Text) : Option (Highlight × Text) :=
  (leadingMarker? t).map (.field, ·)
    <|> (leadingPhrase? t).map (.phrase, ·)
    <|> (leadingOperator? afterWord t).map (.operator, ·)

/-- The text ends in a word character. -/
def endsWord (t : Text) : Bool := (t.getLast?.map isWordCharacter).getD false

/-! ## Segments -/

/-- The pieces of the rest of a query, given whether the character before it belongs to a word. -/
def segmentsFrom (afterWord : Bool) (t : Text) : List Segment :=
  match t with
  | [] => []
  | c :: rest =>
    match leadingMatch? afterWord (c :: rest) with
    | some (kind, text) =>
      .marked kind text
        :: segmentsFrom (endsWord text) (rest.drop (text.length - 1))
    | none => .plain c :: segmentsFrom (isWordCharacter c) rest
  termination_by t.length
  decreasing_by all_goals (simp only [List.length_drop, List.length_cons]; omega)

/-- The pieces of a query. -/
def segments (query : Text) : List Segment := segmentsFrom false query

/-- A highlighted stretch of the query, from its first position to the one past its last. -/
structure Span where
  kind : Highlight
  start : Nat
  stop : Nat
  deriving DecidableEq, Repr

/-- Where the highlighted pieces lie, if the first piece begins at `pos`. -/
def spansFrom (pos : Nat) : List Segment → List Span
  | [] => []
  | .plain _ :: rest => spansFrom (pos + 1) rest
  | .marked kind t :: rest =>
    ⟨kind, pos, pos + t.length⟩ :: spansFrom (pos + t.length) rest

/-- Where the highlighted pieces of a query lie. -/
def spansOf (query : Text) : List Span := spansFrom 0 (segments query)

/-! ## HTML -/

/-- The classes of the three kinds of highlighted text. -/
structure HighlightClasses where
  field : Text := "bq-field".toList
  operator : Text := "bq-operator".toList
  phrase : Text := "bq-phrase".toList
  deriving DecidableEq, Repr

/-- The class for a kind of highlighted text. -/
def HighlightClasses.get (classes : HighlightClasses) : Highlight → Text
  | .field => classes.field
  | .phrase => classes.phrase
  | .operator => classes.operator

/-- One piece in HTML. -/
def Segment.toHtml (classes : HighlightClasses) : Segment → Text
  | .plain c => htmlCharacter c
  | .marked kind t =>
    "<span class=\"".toList ++ (classes.get kind).toHtml ++ "\">".toList ++ t.toHtml
      ++ "</span>".toList

/-- The query in HTML, with the highlighted pieces wrapped. -/
def highlight (query : Text) (classes : HighlightClasses) : Text :=
  (segments query).flatMap (Segment.toHtml classes)

end CandidateSearch

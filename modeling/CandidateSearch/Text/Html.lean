import CandidateSearch.Text.Basic

/-!
# Text in HTML

Five characters are written as entities, so that a text can stand both between tags and inside a
quoted attribute.
-/

namespace CandidateSearch

/-- One character in HTML. -/
def htmlCharacter : Char → Text
  | '&' => "&amp;".toList
  | '<' => "&lt;".toList
  | '>' => "&gt;".toList
  | '"' => "&quot;".toList
  | '\'' => "&#x27;".toList
  | c => [c]

/-- The text in HTML. -/
def Text.toHtml (t : Text) : Text := t.flatMap htmlCharacter

end CandidateSearch

import CandidateSearch.Document.Reader
import CandidateSearch.Query.Highlight

/-!
# Settings

How terms are extracted and how a query is shown.  Settings are read from a document, where every
part may be absent, and written as JSON under the same names.
-/

namespace CandidateSearch

/-- How terms are extracted. -/
structure ParserConfig where
  /-- Leave out the terms that NOT applies to. -/
  excludeNegatedTerms : Bool := false
  deriving DecidableEq, Repr

/-- The settings of the program. -/
structure Settings where
  parser : ParserConfig := {}
  display : HighlightClasses := {}
  deriving DecidableEq, Repr

namespace ParserConfig

/-- Read from a document. -/
def read : Part → Checked ParserConfig :=
  Part.readRecord .parserConfig fun entries =>
    (fieldOr false "exclude_negated_terms" Part.readFlag entries).map .mk

/-- The settings as JSON. -/
def toJson (c : ParserConfig) : Json :=
  .record [("exclude_negated_terms", .bool c.excludeNegatedTerms)]

end ParserConfig

namespace HighlightClasses

/-- Read from a document. -/
def read : Part → Checked HighlightClasses :=
  Part.readRecord .displayConfig fun entries =>
    mk <$> fieldOr (field {}) "field_class" Part.readClass entries
      <*> fieldOr (operator {}) "operator_class" Part.readClass entries
      <*> fieldOr (phrase {}) "phrase_class" Part.readClass entries

/-- The classes as JSON. -/
def toJson (c : HighlightClasses) : Json :=
  .record [("field_class", .text c.field), ("operator_class", .text c.operator),
    ("phrase_class", .text c.phrase)]

end HighlightClasses

namespace Settings

/-- Read from a document. -/
def read : Part → Checked Settings :=
  Part.readRecord .settings fun entries =>
    mk <$> fieldOr {} "parser" ParserConfig.read entries
      <*> fieldOr {} "display" HighlightClasses.read entries

/-- The settings as JSON. -/
def toJson (s : Settings) : Json :=
  .record [("parser", s.parser.toJson), ("display", s.display.toJson)]

end Settings

end CandidateSearch

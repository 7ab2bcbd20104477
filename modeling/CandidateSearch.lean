import CandidateSearch.CommandLine.Arguments
import CandidateSearch.CommandLine.Run
import CandidateSearch.CommandLine.Usage
import CandidateSearch.Decimal.Nearest
import CandidateSearch.Decimal.Notation
import CandidateSearch.Decimal.Shortest
import CandidateSearch.Document.Arrangement
import CandidateSearch.Document.Basic
import CandidateSearch.Document.Checked
import CandidateSearch.Document.Display
import CandidateSearch.Document.Key
import CandidateSearch.Document.Reader
import CandidateSearch.Document.Timestamp
import CandidateSearch.Files
import CandidateSearch.Json.Print
import CandidateSearch.Json.Value
import CandidateSearch.Proofs.Clauses
import CandidateSearch.Proofs.Groups
import CandidateSearch.Proofs.Lexemes
import CandidateSearch.Proofs.Markers
import CandidateSearch.Proofs.Output
import CandidateSearch.Proofs.Rendering
import CandidateSearch.Proofs.Roundtrip
import CandidateSearch.Proofs.Scopes
import CandidateSearch.Proofs.Terms
import CandidateSearch.Proofs.Text
import CandidateSearch.Query.Clause
import CandidateSearch.Query.Examples
import CandidateSearch.Query.Field
import CandidateSearch.Query.Filters
import CandidateSearch.Query.Group
import CandidateSearch.Query.Highlight
import CandidateSearch.Query.Marker
import CandidateSearch.Query.Operator
import CandidateSearch.Query.Parsed
import CandidateSearch.Query.Record
import CandidateSearch.Query.Terms
import CandidateSearch.Query.TimeScope
import CandidateSearch.Query.Token
import CandidateSearch.Query.Trace
import CandidateSearch.Query.Typing
import CandidateSearch.Query.Validation
import CandidateSearch.Record
import CandidateSearch.Settings
import CandidateSearch.SettingsFile
import CandidateSearch.Text.Basic
import CandidateSearch.Text.Case
import CandidateSearch.Text.CaseTable
import CandidateSearch.Text.CodePointSet
import CandidateSearch.Text.Digit
import CandidateSearch.Text.Duration
import CandidateSearch.Text.Html
import CandidateSearch.Text.Loose
import CandidateSearch.Text.Numeral
import CandidateSearch.Text.Printable
import CandidateSearch.Text.Quoted
import CandidateSearch.Text.Utf8
import CandidateSearch.Yaml.Cursor
import CandidateSearch.Yaml.Fault
import CandidateSearch.Yaml.Node
import CandidateSearch.Yaml.Number
import CandidateSearch.Yaml.Octets
import CandidateSearch.Yaml.Scalar
import CandidateSearch.Yaml.Tag
import CandidateSearch.Yaml.Timestamp
import CandidateSearch.Yaml.Token
import CandidateSearch.Yaml.Value
import CandidateSearch.Main
import CandidateSearch.Proofs.Acceptance
import CandidateSearch.Proofs.Appending
import CandidateSearch.Proofs.Highlighting
import CandidateSearch.Proofs.Precedence
import CandidateSearch.Proofs.Continuing
import CandidateSearch.Proofs.Labels
import CandidateSearch.Proofs.Prefixing
import CandidateSearch.Proofs.Duplicates
import CandidateSearch.Proofs.Commands
import CandidateSearch.Proofs.Loading
import CandidateSearch.Proofs.OperatorWords
import CandidateSearch.Proofs.Placement
import CandidateSearch.Proofs.Parentheses
import CandidateSearch.Proofs.Detection
import CandidateSearch.Proofs.Records
import CandidateSearch.Proofs.Negation
import CandidateSearch.Proofs.Trailing
import CandidateSearch.Proofs.Phrases
import CandidateSearch.Proofs.Joining
import CandidateSearch.Proofs.Recording
import CandidateSearch.Proofs.MarkerPlaces
import CandidateSearch.Proofs.FieldSpans
import CandidateSearch.Proofs.Captures
import CandidateSearch.Proofs.LabelPlaces

import CandidateSearch.Query.Terms
import CandidateSearch.Query.TimeScope

/-!
# Parsed queries

`parse` reads the five term lists, their operators and the two time scopes out of a raw query.  It
is total: what cannot be read stays empty.
-/

namespace CandidateSearch

/-- One list of texts for every field that holds terms. -/
structure FieldLists where
  keywords : List Text := []
  jobTitles : List Text := []
  jobOccupations : List Text := []
  companies : List Text := []
  locations : List Text := []
  deriving DecidableEq, Repr

namespace FieldLists

/-- The list of a field. -/
def get (lists : FieldLists) : ListField → List Text
  | .keywords => lists.keywords
  | .jobTitle => lists.jobTitles
  | .jobOccupation => lists.jobOccupations
  | .company => lists.companies
  | .location => lists.locations

/-- The lists that a function gives for the fields. -/
def tabulate (f : ListField → List Text) : FieldLists where
  keywords := f .keywords
  jobTitles := f .jobTitle
  jobOccupations := f .jobOccupation
  companies := f .company
  locations := f .location

@[simp] theorem get_tabulate (f : ListField → List Text) (field : ListField) :
    (tabulate f).get field = f field := by
  cases field <;> rfl

/-- No field has an entry. -/
def isEmpty (lists : FieldLists) : Bool := ListField.all.all fun f => (lists.get f).isEmpty

end FieldLists

/-- The structured form of a raw query. -/
structure ParsedQuery where
  terms : FieldLists := {}
  timeScope : TimeScope := .both
  companyTimeScope : TimeScope := .both
  operators : FieldLists := {}
  rawQuery : Text := []
  deriving DecidableEq, Repr

/-- No field holds a term. -/
def ParsedQuery.isEmpty (p : ParsedQuery) : Bool := p.terms.isEmpty

/-- What a query says under a field that holds terms, or nothing if the field is absent. -/
def fieldExtraction (query : Text) (excludeNegated : Bool) (f : ListField) :
    Option TermExtraction :=
  (extractField query f.label).map (extractTerms · excludeNegated)

/-- The structured form of a raw query. -/
def parse (query : Text) (excludeNegated : Bool) : ParsedQuery where
  terms := .tabulate fun f =>
    match fieldExtraction query excludeNegated f with
    | some e => e.terms
    | none => []
  timeScope := extractTimeScope query (ScopeField.label .jobTitle)
  companyTimeScope := extractTimeScope query (ScopeField.label .company)
  operators := .tabulate fun f =>
    match fieldExtraction query excludeNegated f with
    | some e => e.operators.map Operator.name
    | none => []
  rawQuery := query

end CandidateSearch

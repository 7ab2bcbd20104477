import CandidateSearch.Query.Parsed
import CandidateSearch.Query.Validation

/-!
# Search filters

The record that the search backend takes.  A section is present only when its filter is active, and
time scopes have no section of their own: the general section, reserved for them, stays absent.
-/

namespace CandidateSearch

/-- The skills and keywords to look for. -/
structure SkillsKeywordsFilter where
  items : List Text
  deriving DecidableEq, Repr

/-- The job titles to look for. -/
structure JobFilter where
  titles : List Text
  deriving DecidableEq, Repr

/-- The companies to look for. -/
structure CompanyFilter where
  names : List Text
  deriving DecidableEq, Repr

/-- The places to look in. -/
structure LocationFilter where
  currentLocations : List Text
  deriving DecidableEq, Repr

/-- A section without content, reserved for time scopes. -/
structure GeneralFilter where
  deriving DecidableEq, Repr

/-- The filters of a search, each present only when it is active. -/
structure SearchFilters where
  skillsKeywords : Option SkillsKeywordsFilter := none
  job : Option JobFilter := none
  company : Option CompanyFilter := none
  location : Option LocationFilter := none
  general : Option GeneralFilter := none
  deriving DecidableEq, Repr

/-- A section holds a list, if the list has entries. -/
def sectionOf {α : Type} (make : List Text → α) (entries : List Text) : Option α :=
  if entries.isEmpty then none else some (make entries)

/-- The job titles of a query followed by its occupations, each once. -/
def jobTitlesAndOccupations (terms : FieldLists) : List Text :=
  (terms.jobTitles ++ terms.jobOccupations).eraseDups

/-- The filters for a parsed query. -/
def compileFilters (p : ParsedQuery) : SearchFilters where
  skillsKeywords := sectionOf .mk p.terms.keywords
  job := sectionOf .mk (jobTitlesAndOccupations p.terms)
  company := sectionOf .mk p.terms.companies
  location := sectionOf .mk p.terms.locations

/-- What validating, parsing and compiling one query gives. -/
structure CompiledQuery where
  validation : ValidationResult
  parsed : ParsedQuery
  filters : SearchFilters
  deriving DecidableEq, Repr

/-- Validate, parse and compile a query; an invalid query is compiled too. -/
def compileQuery (query : Text) (excludeNegated : Bool) : CompiledQuery :=
  let parsed := parse query excludeNegated
  { validation := validate query, parsed, filters := compileFilters parsed }

end CandidateSearch

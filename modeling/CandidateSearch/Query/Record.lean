import CandidateSearch.Document.Reader
import CandidateSearch.Query.Filters

/-!
# Query records as documents

Parsed queries, validation results and filters can be read from a document and written as JSON.  The
names are those of the records; `SearchFilters.payload` writes the filters under the names that the
search backend uses, and leaves out absent sections.
-/

namespace CandidateSearch

/-! ## Parsed queries -/

namespace FieldLists

/-- Read the five lists from the entries of a mapping. -/
def readEntries (entries : Entries) : Checked FieldLists :=
  mk <$> fieldOr [] "keywords" Part.readTexts entries
    <*> fieldOr [] "job_titles" Part.readTexts entries
    <*> fieldOr [] "job_occupations" Part.readTexts entries
    <*> fieldOr [] "companies" Part.readTexts entries
    <*> fieldOr [] "locations" Part.readTexts entries

/-- Read the operators of the fields from a document. -/
def read : Part → Checked FieldLists := Part.readRecord .fieldOperators readEntries

/-- The five lists under their names. -/
def jsonFields (lists : FieldLists) : List (String × Json) :=
  [("keywords", .texts lists.keywords), ("job_titles", .texts lists.jobTitles),
    ("job_occupations", .texts lists.jobOccupations), ("companies", .texts lists.companies),
    ("locations", .texts lists.locations)]

/-- The five lists as JSON. -/
def toJson (lists : FieldLists) : Json := .record lists.jsonFields

end FieldLists

namespace ParsedQuery

/-- Read from a document. -/
def read : Part → Checked ParsedQuery :=
  Part.readRecord .parsedQuery fun entries =>
    mk <$> FieldLists.readEntries entries
      <*> fieldOr .both "time_scope" Part.readScope entries
      <*> fieldOr .both "company_time_scope" Part.readScope entries
      <*> fieldOr {} "operators" FieldLists.read entries
      <*> fieldOr [] "raw_query" Part.readText entries

/-- The parsed query as JSON. -/
def toJson (p : ParsedQuery) : Json :=
  .record <| p.terms.jsonFields ++
    [("time_scope", .text p.timeScope.name), ("company_time_scope", .text p.companyTimeScope.name),
      ("operators", p.operators.toJson), ("raw_query", .text p.rawQuery)]

end ParsedQuery

/-! ## Validation results -/

namespace ValidationResult

/-- Read from a document. -/
def read : Part → Checked ValidationResult :=
  Part.readRecord .validationResult fun entries =>
    mk <$> requiredField "is_valid" Part.readFlag entries
      <*> fieldOr [] "errors" Part.readTexts entries
      <*> fieldOr [] "warnings" Part.readTexts entries

/-- The validation result as JSON. -/
def toJson (r : ValidationResult) : Json :=
  .record [("is_valid", .bool r.isValid), ("errors", .texts r.errors),
    ("warnings", .texts r.warnings)]

end ValidationResult

/-! ## Filters -/

namespace SkillsKeywordsFilter

/-- Read from a document. -/
def read : Part → Checked SkillsKeywordsFilter :=
  Part.readRecord .skillsKeywordsFilter fun entries =>
    (requiredField "items" Part.readTexts entries).map mk

/-- The section as JSON. -/
def toJson (f : SkillsKeywordsFilter) : Json := .record [("items", .texts f.items)]

end SkillsKeywordsFilter

namespace JobFilter

/-- Read from a document. -/
def read : Part → Checked JobFilter :=
  Part.readRecord .jobFilter fun entries =>
    (requiredField "titles" Part.readTexts entries).map mk

/-- The section as JSON. -/
def toJson (f : JobFilter) : Json := .record [("titles", .texts f.titles)]

end JobFilter

namespace CompanyFilter

/-- Read from a document. -/
def read : Part → Checked CompanyFilter :=
  Part.readRecord .companyFilter fun entries =>
    (requiredField "names" Part.readTexts entries).map mk

/-- The section as JSON. -/
def toJson (f : CompanyFilter) : Json := .record [("names", .texts f.names)]

end CompanyFilter

namespace LocationFilter

/-- Read from a document; the places may stand under either name. -/
def read : Part → Checked LocationFilter :=
  Part.readRecord .locationFilter fun entries =>
    (requiredField (keyOf "currentLocations" "current_locations" entries) Part.readTexts
      entries).map mk

/-- The section as JSON, under the name of the record. -/
def toJson (f : LocationFilter) : Json :=
  .record [("current_locations", .texts f.currentLocations)]

/-- The section as JSON, under the name of the backend. -/
def payload (f : LocationFilter) : Json :=
  .record [("currentLocations", .texts f.currentLocations)]

end LocationFilter

namespace GeneralFilter

/-- Read from a document. -/
def read : Part → Checked GeneralFilter :=
  Part.readRecord .generalFilter fun _ => .good ⟨⟩

/-- The section as JSON. -/
def toJson (_ : GeneralFilter) : Json := .record []

end GeneralFilter

namespace SearchFilters

/-- Read from a document; the first section may stand under either name, and every section may be
null. -/
def read : Part → Checked SearchFilters :=
  Part.readRecord .searchFilters fun entries =>
    mk <$> fieldOr none (keyOf "skillsKeywords" "skills_keywords" entries)
        (Part.readOptional SkillsKeywordsFilter.read) entries
      <*> fieldOr none "job" (Part.readOptional JobFilter.read) entries
      <*> fieldOr none "company" (Part.readOptional CompanyFilter.read) entries
      <*> fieldOr none "location" (Part.readOptional LocationFilter.read) entries
      <*> fieldOr none "general" (Part.readOptional GeneralFilter.read) entries

/-- The section as JSON, or null. -/
def sectionJson {α : Type} (toJson : α → Json) : Option α → Json
  | some s => toJson s
  | none => .null

/-- The filters as JSON, with null for absent sections. -/
def toJson (f : SearchFilters) : Json :=
  .record [("skills_keywords", sectionJson SkillsKeywordsFilter.toJson f.skillsKeywords),
    ("job", sectionJson JobFilter.toJson f.job),
    ("company", sectionJson CompanyFilter.toJson f.company),
    ("location", sectionJson LocationFilter.toJson f.location),
    ("general", sectionJson GeneralFilter.toJson f.general)]

/-- The sections that are present, under the names of the backend. -/
def sections (f : SearchFilters) : List (String × Json) :=
  (f.skillsKeywords.map fun s => ("skillsKeywords", s.toJson)).toList
    ++ (f.job.map fun s => ("job", s.toJson)).toList
    ++ (f.company.map fun s => ("company", s.toJson)).toList
    ++ (f.location.map fun s => ("location", s.payload)).toList
    ++ (f.general.map fun s => ("general", s.toJson)).toList

/-- What is sent to the search backend. -/
def payload (f : SearchFilters) : Json := .record f.sections

end SearchFilters

/-! ## Compiled queries -/

namespace CompiledQuery

/-- Read from a document. -/
def read : Part → Checked CompiledQuery :=
  Part.readRecord .compiledQuery fun entries =>
    mk <$> requiredField "validation" ValidationResult.read entries
      <*> requiredField "parsed" ParsedQuery.read entries
      <*> requiredField "filters" SearchFilters.read entries

/-- The compiled query as JSON. -/
def toJson (c : CompiledQuery) : Json :=
  .record [("validation", c.validation.toJson), ("parsed", c.parsed.toJson),
    ("filters", c.filters.toJson)]

end CompiledQuery

end CandidateSearch

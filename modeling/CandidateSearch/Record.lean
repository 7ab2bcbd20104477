import CandidateSearch.Query.Record
import CandidateSearch.Settings

/-!
# Records of every kind

A record of any kind can be read from a document by the name of its kind, and written again.
Records of settings can be changed field by field; all others are frozen.
-/

namespace CandidateSearch

/-- A record of some kind. -/
inductive AnyRecord where
  | parserConfig (r : ParserConfig)
  | displayConfig (r : HighlightClasses)
  | settings (r : Settings)
  | fieldOperators (r : FieldLists)
  | parsedQuery (r : ParsedQuery)
  | validationResult (r : ValidationResult)
  | skillsKeywordsFilter (r : SkillsKeywordsFilter)
  | jobFilter (r : JobFilter)
  | companyFilter (r : CompanyFilter)
  | locationFilter (r : LocationFilter)
  | generalFilter (r : GeneralFilter)
  | searchFilters (r : SearchFilters)
  | compiledQuery (r : CompiledQuery)
  deriving DecidableEq, Repr

namespace AnyRecord

/-- Read a record of a kind from a document. -/
def read (kind : RecordKind) (p : Part) : Checked AnyRecord :=
  match kind with
  | .parserConfig => (ParserConfig.read p).map parserConfig
  | .displayConfig => (HighlightClasses.read p).map displayConfig
  | .settings => (Settings.read p).map settings
  | .fieldOperators => (FieldLists.read p).map fieldOperators
  | .parsedQuery => (ParsedQuery.read p).map parsedQuery
  | .validationResult => (ValidationResult.read p).map validationResult
  | .skillsKeywordsFilter => (SkillsKeywordsFilter.read p).map skillsKeywordsFilter
  | .jobFilter => (JobFilter.read p).map jobFilter
  | .companyFilter => (CompanyFilter.read p).map companyFilter
  | .locationFilter => (LocationFilter.read p).map locationFilter
  | .generalFilter => (GeneralFilter.read p).map generalFilter
  | .searchFilters => (SearchFilters.read p).map searchFilters
  | .compiledQuery => (CompiledQuery.read p).map compiledQuery

/-- The record as JSON, under the names of its fields. -/
def toJson : AnyRecord → Json
  | .parserConfig r => r.toJson
  | .displayConfig r => r.toJson
  | .settings r => r.toJson
  | .fieldOperators r => r.toJson
  | .parsedQuery r => r.toJson
  | .validationResult r => r.toJson
  | .skillsKeywordsFilter r => r.toJson
  | .jobFilter r => r.toJson
  | .companyFilter r => r.toJson
  | .locationFilter r => r.toJson
  | .generalFilter r => r.toJson
  | .searchFilters r => r.toJson
  | .compiledQuery r => r.toJson

end AnyRecord

/-! ## Changing fields -/

/-- Records of this kind may be changed. -/
def RecordKind.isMutable : RecordKind → Bool
  | .parserConfig | .displayConfig | .settings => true
  | _ => false

/-- Why a field cannot be set. -/
inductive AssignmentError where
  /-- The record is frozen. -/
  | frozen (field : Text)
  /-- The record has no such field. -/
  | unknownField (field : Text)
  /-- The name stands for what the record knows about itself, which follows from its fields. -/
  | derivedField (field : Text)
  deriving DecidableEq, Repr

/-- The names for what every record knows about itself. -/
def derivedFields : List Text := ["model_extra", "model_fields_set"].map String.toList

/-- Set fields of a record one after the other.  A value is stored as it is, without being checked;
a name that begins with an underscore is no field and leaves the record as it was. -/
def assignAll (kind : RecordKind) (record : Json) :
    List (Text × Json) → Except AssignmentError Json
  | [] => .ok record
  | (field, value) :: rest =>
    if field.head? = some '_' then assignAll kind record rest
    else if !kind.isMutable then .error (.frozen field)
    else if derivedFields.contains field then .error (.derivedField field)
    else if !record.hasKey field then .error (.unknownField field)
    else assignAll kind (record.replace field value) rest

end CandidateSearch

import CandidateSearch.Query.Terms
import CandidateSearch.Query.TimeScope

/-!
# Validation of queries

`examine` checks a raw query while it is being typed: it works on partial input and reports every
defect and every remark at once.  A defect makes the query invalid, a remark does not.
-/

namespace CandidateSearch

/-! ## Labels -/

/-- The trimmed text between each plus sign and the colon that follows it.  The search resumes after
the colon, so one label ends at each colon at most, and nothing is reported for a colon that stands
right behind its plus sign. -/
def fieldLabels (query : Text) : List Text :=
  match h : Text.after? '+' query with
  | none => []
  | some rest =>
    match h' : Text.after? ':' rest with
    | none => []
    | some beyond =>
      have := Text.length_of_after? h
      have := Text.length_of_after? h'
      let label := rest.takeWhile (· != ':')
      if label.isEmpty then fieldLabels beyond else Text.trim label :: fieldLabels beyond
  termination_by query.length
  decreasing_by all_goals omega

/-! ## Findings -/

/-- What makes a query invalid. -/
inductive Defect where
  | unmatchedParentheses
  | unmatchedQuotes
  | unknownField (label : Text)
  deriving DecidableEq, Repr

/-- What is worth a remark in a query that may still be valid. -/
inductive Remark where
  | duplicateField (field : Field)
  | emptyValue (field : ListField)
  | unrecognizedScope (field : ScopeField) (value : Text)
  deriving DecidableEq, Repr

/-- The defect in words. -/
def Defect.message : Defect → Text
  | .unmatchedParentheses => "Unmatched parentheses in query".toList
  | .unmatchedQuotes => "Unmatched quotes in query".toList
  | .unknownField label => "Unknown field: ".toList ++ label

/-- The remark in words. -/
def Remark.message : Remark → Text
  | .duplicateField field =>
    "Duplicate field: ".toList ++ field.label
      ++ " (only the first complete clause is used)".toList
  | .emptyValue field => "Empty value for field: ".toList ++ field.label
  | .unrecognizedScope field value =>
    "Unrecognized time scope for ".toList ++ field.label ++ ": ".toList ++ value

/-- Everything that examining a query finds. -/
structure Findings where
  defects : List Defect
  remarks : List Remark
  deriving DecidableEq, Repr

/-! ## Defects -/

/-- As many groups open as close. -/
def parenthesesMatch (query : Text) : Bool := query.count '(' == query.count ')'

/-- The number of quotes is even. -/
def quotesMatch (query : Text) : Bool := query.count '"' % 2 == 0

/-- Unmatched parentheses, unmatched quotes and unknown fields, in this order. -/
def defectsOf (query : Text) : List Defect :=
  (if parenthesesMatch query then [] else [.unmatchedParentheses])
    ++ (if quotesMatch query then [] else [.unmatchedQuotes])
    ++ ((fieldLabels query).filter (!mentionsField ·)).map .unknownField

/-! ## Remarks -/

/-- The fields that are named more than once, in the order in which they are first named. -/
def duplicateFields (labels : List Text) : List Field :=
  let named := labels.filterMap Field.named?
  named.eraseDups.filter fun f => 1 < named.count f

/-- A content is there and yields no term. -/
def yieldsNoTerm (content : Option Text) : Bool :=
  match content with
  | some t => (extractTerms t false).terms.isEmpty
  | none => false

/-- Some clause of the field is closed and yields no term. -/
def hasEmptyClause (query : Text) (f : ListField) : Bool :=
  (clauseContents query f.label).any yieldsNoTerm

/-- The value that the query gives for a time scope, if it mentions neither scope. -/
def unrecognizedScope (query : Text) (f : ScopeField) : Option Text :=
  (extractScalar query f.label).filter fun value =>
    !(TimeScope.name .current).occursIn value && !(TimeScope.name .past).occursIn value

/-- Fields given twice, fields without a value and time scopes without a meaning, in this order. -/
def remarksOf (query : Text) : List Remark :=
  (duplicateFields (fieldLabels query)).map .duplicateField
    ++ (ListField.all.filter (hasEmptyClause query)).map .emptyValue
    ++ ScopeField.all.filterMap fun f => (unrecognizedScope query f).map (.unrecognizedScope f)

/-- Everything that there is to say about a query. -/
def examine (query : Text) : Findings where
  defects := defectsOf query
  remarks := remarksOf query

/-! ## Reports -/

/-- The outcome of validating a query, in words. -/
structure ValidationResult where
  isValid : Bool
  errors : List Text := []
  warnings : List Text := []
  deriving DecidableEq, Repr

/-- The findings in words; a query is valid when it has no defect. -/
def Findings.report (f : Findings) : ValidationResult where
  isValid := f.defects.isEmpty
  errors := f.defects.map Defect.message
  warnings := f.remarks.map Remark.message

/-- The outcome of validating a query. -/
def validate (query : Text) : ValidationResult := (examine query).report

end CandidateSearch

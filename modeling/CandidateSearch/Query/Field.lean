import CandidateSearch.Text.Case

/-!
# Fields of a query

A query speaks of five fields that hold terms and of two that hold a time scope.  `Field.label` is
the name a field goes by, `Field.named?` reads such a name, and `mentionsField` is the weaker test
by which a label counts as known.
-/

namespace CandidateSearch

/-- A field that holds terms. -/
inductive ListField where
  | keywords
  | jobTitle
  | jobOccupation
  | company
  | location
  deriving DecidableEq, Repr

/-- A field that says when a job or a company is meant. -/
inductive ScopeField where
  | jobTitle
  | company
  deriving DecidableEq, Repr

/-- A field of a query. -/
inductive Field where
  | list (f : ListField)
  | scope (f : ScopeField)
  deriving DecidableEq, Repr

namespace ListField

/-- Every field that holds terms, in the order in which they are read. -/
def all : List ListField := [.keywords, .jobTitle, .jobOccupation, .company, .location]

/-- The name of the field. -/
def label : ListField → Text
  | .keywords => "Keywords".toList
  | .jobTitle => "Job title".toList
  | .jobOccupation => "Job occupation".toList
  | .company => "Company".toList
  | .location => "Location".toList

end ListField

namespace ScopeField

/-- Both time scopes. -/
def all : List ScopeField := [.jobTitle, .company]

/-- The name of the field. -/
def label : ScopeField → Text
  | .jobTitle => "Job title time scope".toList
  | .company => "Company time scope".toList

end ScopeField

namespace Field

/-- Every field, those that hold terms first. -/
def all : List Field := ListField.all.map .list ++ ScopeField.all.map .scope

/-- The name of the field. -/
def label : Field → Text
  | .list f => f.label
  | .scope f => f.label

/-- The field that a text names, up to case and surrounding blanks. -/
def named? (t : Text) : Option Field :=
  all.find? fun f => f.label.lower == t.trim.lower

end Field

/-- The label holds the name of some field, up to case. -/
def mentionsField (label : Text) : Bool :=
  Field.all.any fun f => f.label.lower.occursIn label.lower

end CandidateSearch

import CandidateSearch.Document.Basic

/-!
# Checked values

Reading a record from a document either succeeds or gathers everything that is wrong with the
document.  An issue says what is wrong, where, and which part of the document it is about.
`Checked` is an applicative functor whose failures add up: `seq_bad_bad` says that no issue is lost.
-/

namespace CandidateSearch

/-- The records of the program. -/
inductive RecordKind where
  | parserConfig
  | displayConfig
  | settings
  | fieldOperators
  | parsedQuery
  | validationResult
  | skillsKeywordsFilter
  | jobFilter
  | companyFilter
  | locationFilter
  | generalFilter
  | searchFilters
  | compiledQuery
  deriving DecidableEq, Repr

namespace RecordKind

/-- Every kind of record. -/
def all : List RecordKind :=
  [.parserConfig, .displayConfig, .settings, .fieldOperators, .parsedQuery, .validationResult,
    .skillsKeywordsFilter, .jobFilter, .companyFilter, .locationFilter, .generalFilter,
    .searchFilters, .compiledQuery]

/-- The name by which messages call the record. -/
def name : RecordKind → Text
  | .parserConfig => "ParserConfig".toList
  | .displayConfig => "DisplayConfig".toList
  | .settings => "Settings".toList
  | .fieldOperators => "FieldOperators".toList
  | .parsedQuery => "ParsedQuery".toList
  | .validationResult => "ValidationResult".toList
  | .skillsKeywordsFilter => "SkillsKeywordsFilter".toList
  | .jobFilter => "JobFilter".toList
  | .companyFilter => "CompanyFilter".toList
  | .locationFilter => "LocationFilter".toList
  | .generalFilter => "GeneralFilter".toList
  | .searchFilters => "SearchFilters".toList
  | .compiledQuery => "CompiledQuery".toList

/-- The kind with this name. -/
def named? (t : Text) : Option RecordKind := all.find? (·.name == t)

end RecordKind

/-! ## Issues -/

/-- A step into a document. -/
inductive PathStep where
  | key (name : Text)
  | index (n : Nat)
  deriving DecidableEq, Repr

/-- What is wrong with a part of a document. -/
inductive Problem where
  | notRecord (kind : RecordKind)
  | missing
  | notText
  | undecodableText
  | notList
  | notScope
  | notFlag
  | unreadableFlag
  | blankClass
  | frozen
  deriving DecidableEq, Repr

namespace Problem

/-- The short name of the problem. -/
def code : Problem → Text
  | .notRecord _ => "model_type".toList
  | .missing => "missing".toList
  | .notText => "string_type".toList
  | .undecodableText => "string_unicode".toList
  | .notList => "list_type".toList
  | .notScope => "enum".toList
  | .notFlag => "bool_type".toList
  | .unreadableFlag => "bool_parsing".toList
  | .blankClass => "value_error".toList
  | .frozen => "frozen_instance".toList

/-- The problem in words. -/
def message : Problem → Text
  | .notRecord kind => "Input should be a valid dictionary or instance of ".toList ++ kind.name
  | .missing => "Field required".toList
  | .notText => "Input should be a valid string".toList
  | .undecodableText =>
    "Input should be a valid string, unable to parse raw data as a unicode string".toList
  | .notList => "Input should be a valid list".toList
  | .notScope => "Input should be 'current', 'past' or 'both'".toList
  | .notFlag => "Input should be a valid boolean".toList
  | .unreadableFlag => "Input should be a valid boolean, unable to interpret input".toList
  | .blankClass => "Value error, CSS class must not be empty".toList
  | .frozen => "Instance is frozen".toList

end Problem

/-- A problem, the way to the part of the document that has it, and that part. -/
structure Issue where
  problem : Problem
  path : List PathStep
  given : Part
  deriving Repr

/-- The issue, seen from one step further out. -/
def Issue.under (step : PathStep) (i : Issue) : Issue := { i with path := step :: i.path }

/-! ## Checked values -/

/-- A value that has been read, or everything that is wrong. -/
inductive Checked (α : Type) where
  | good (value : α)
  | bad (issues : List Issue)
  deriving Repr

namespace Checked

/-- A part of a document with one problem. -/
def fail {α : Type} (problem : Problem) (given : Part) : Checked α :=
  .bad [⟨problem, [], given⟩]

/-- Change the value. -/
def map {α β : Type} (f : α → β) : Checked α → Checked β
  | .good a => .good (f a)
  | .bad issues => .bad issues

/-- Apply a function to a value; the issues of both sides are gathered. -/
def seq {α β : Type} (f : Checked (α → β)) (a : Checked α) : Checked β :=
  match f, a with
  | .good f, .good a => .good (f a)
  | .good _, .bad issues => .bad issues
  | .bad issues, .good _ => .bad issues
  | .bad first, .bad second => .bad (first ++ second)

/-- The same result, seen from one step further out. -/
def under {α : Type} (step : PathStep) : Checked α → Checked α
  | .good a => .good a
  | .bad issues => .bad (issues.map (Issue.under step))

instance : Applicative Checked where
  pure := .good
  map := map
  seq f a := seq f (a ())

@[simp] theorem seq_good_good {α β : Type} (f : α → β) (a : α) :
    seq (.good f) (.good a) = .good (f a) := rfl

@[simp] theorem seq_bad_bad {α β : Type} (first second : List Issue) :
    seq (.bad first : Checked (α → β)) (.bad second) = .bad (first ++ second) := rfl

@[simp] theorem under_good {α : Type} (step : PathStep) (a : α) :
    under step (.good a) = .good a := rfl

/-- Read every item of a list, each under its index. -/
def listFrom {α β : Type} (read : α → Checked β) (index : Nat) : List α → Checked (List β)
  | [] => .good []
  | a :: rest =>
    seq (map List.cons (under (.index index) (read a))) (listFrom read (index + 1) rest)

end Checked

end CandidateSearch

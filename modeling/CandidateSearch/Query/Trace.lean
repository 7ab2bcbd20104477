import CandidateSearch.Query.Filters
import CandidateSearch.Text.Quoted

/-!
# Trace of a run

What validating, parsing and compiling a query notes on the way, as a list of events.  Clauses are
looked at one by one and only as far as needed, so later clauses leave no event behind.  An event
knows its severity, the component that speaks, and its message.
-/

namespace CandidateSearch

/-- How much an event matters. -/
inductive Severity where
  | debug
  | info
  deriving DecidableEq, Repr

/-- Something that is noted on the way. -/
inductive Event where
  /-- A quote without a partner is passed over. -/
  | looseQuote (position : Nat)
  /-- Terms are left out because NOT applies to them. -/
  | negatedTermsExcluded (terms : List Text)
  /-- A clause is skipped because its group is never closed. -/
  | unclosedGroup (label : Text) (position : Nat)
  /-- A field has been read. -/
  | fieldRead (field : ListField) (extraction : TermExtraction)
  /-- A query is invalid. -/
  | queryInvalid (errors : List Text)
  /-- A time scope has no effect on the filters. -/
  | scopeIgnored (field : ScopeField) (scope : TimeScope)
  /-- A query has been compiled. -/
  | queryCompiled (sections : Nat) (isValid : Bool)
  deriving DecidableEq, Repr

namespace Event

/-- Only the completion of a query is more than a detail. -/
def severity : Event → Severity
  | .queryCompiled _ _ => .info
  | _ => .debug

/-- The component that the event comes from. -/
def source : Event → Text
  | .looseQuote _ => "talent_query.query.lexer".toList
  | .negatedTermsExcluded _ => "talent_query.query.terms".toList
  | .unclosedGroup _ _ => "talent_query.query.fields".toList
  | .fieldRead _ _ => "talent_query.query.parser".toList
  | .queryInvalid _ => "talent_query.query.validator".toList
  | .scopeIgnored _ _ | .queryCompiled _ _ => "talent_query.query.compiler".toList

/-- The event in words. -/
def message : Event → Text
  | .looseQuote position =>
    "Unterminated quote at position ".toList ++ natDigits position ++ ", ignoring it".toList
  | .negatedTermsExcluded terms => "Excluding negated terms: ".toList ++ quotedList terms
  | .unclosedGroup label position =>
    "Field '".toList ++ label ++ "' has an unclosed group at ".toList ++ natDigits position
  | .fieldRead field extraction =>
    field.label ++ ": ".toList ++ natDigits extraction.terms.length
      ++ " terms, operators=".toList ++ quotedList (extraction.operators.map Operator.name)
  | .queryInvalid errors => "Query invalid: ".toList ++ quotedList errors
  | .scopeIgnored field scope =>
    let subject : Text :=
      match field with
      | .jobTitle => "job title".toList
      | .company => "company".toList
    "Ignoring ".toList ++ subject ++ " time scope '".toList ++ scope.name
      ++ "': not supported by search filters".toList
  | .queryCompiled sections isValid =>
    "Compiled query: ".toList ++ natDigits sections ++ " active filter sections, valid=".toList
      ++ if isValid then "True".toList else "False".toList

/-- The event as a line of the log. -/
def line (e : Event) : Text :=
  let level : Text :=
    match e.severity with
    | .debug => "[DEBUG] ".toList
    | .info => "[INFO] ".toList
  level ++ e.source ++ ": ".toList ++ e.message

end Event

/-! ## Reading terms and clauses -/

/-- Texts in the order of their code points. -/
def sortTexts (ts : List Text) : List Text := ts.mergeSort fun a b => !(b < a)

/-- What extracting the terms of a content notes. -/
def traceTerms (content : Text) (excludeNegated : Bool) : List Event :=
  let dropped := droppedTerms excludeNegated (markNegation (tokenize content))
  (looseQuotes content).map .looseQuote
    ++ if excludeNegated && !dropped.isEmpty then [.negatedTermsExcluded (sortTexts dropped)]
      else []

/-- What looking at a clause notes. -/
def traceClause (label : Text) (c : Clause) : List Event :=
  match c.body with
  | .unclosed => [.unclosedGroup label c.start]
  | _ => []

/-- What looking for the first usable clause of a label notes. -/
def traceField (query label : Text) : List Event :=
  ((clauses query label).takeWhile fun c => !isUsable (c.content label)).flatMap
    (traceClause label)

/-! ## Parsing -/

/-- What reading one field notes. -/
def traceListField (query : Text) (excludeNegated : Bool) (f : ListField) : List Event :=
  traceField query f.label ++
    match extractField query f.label with
    | none => []
    | some content =>
      traceTerms content excludeNegated ++ [.fieldRead f (extractTerms content excludeNegated)]

/-- What parsing a query notes. -/
def traceParse (query : Text) (excludeNegated : Bool) : List Event :=
  ListField.all.flatMap (traceListField query excludeNegated)

/-! ## Validating -/

/-- What looking for an empty clause notes, which ends with the first one found. -/
def traceEmptyClause (label : Text) : List Clause → List Event
  | [] => []
  | c :: rest =>
    match c.content label with
    | none => traceClause label c ++ traceEmptyClause label rest
    | some content =>
      traceTerms content false
        ++ if yieldsNoTerm (some content) then [] else traceEmptyClause label rest

/-- What validating a query notes. -/
def traceValidate (query : Text) : List Event :=
  let errors := (validate query).errors
  (ListField.all.flatMap fun f => traceEmptyClause f.label (clauses query f.label))
    ++ if errors.isEmpty then [] else [.queryInvalid errors]

/-! ## Compiling -/

/-- What compiling filters notes. -/
def traceFilters (p : ParsedQuery) : List Event :=
  [(ScopeField.jobTitle, p.timeScope), (ScopeField.company, p.companyTimeScope)].filterMap
    fun (field, scope) => if scope = .both then none else some (.scopeIgnored field scope)

/-- How many sections of the filters are present. -/
def SearchFilters.activeSections (f : SearchFilters) : Nat :=
  [f.skillsKeywords.isSome, f.job.isSome, f.company.isSome, f.location.isSome,
    f.general.isSome].count true

/-- What validating, parsing and compiling a query notes. -/
def traceCompile (query : Text) (excludeNegated : Bool) : List Event :=
  let compiled := compileQuery query excludeNegated
  traceValidate query ++ traceParse query excludeNegated ++ traceFilters compiled.parsed
    ++ [.queryCompiled compiled.filters.activeSections compiled.validation.isValid]

end CandidateSearch

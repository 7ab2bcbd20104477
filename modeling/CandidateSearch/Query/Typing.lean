import CandidateSearch.Query.Filters

/-!
# Queries while they are typed

What a user sees at several moments of typing a query: after every `stride` characters, beginning
with the empty query.
-/

namespace CandidateSearch

/-- What is known about a query at one moment of typing it. -/
structure Snapshot where
  validation : ValidationResult
  isBoolean : Bool
  filters : SearchFilters
  deriving DecidableEq, Repr

/-- What is known about a query as far as it has been typed. -/
def snapshot (excludeNegated : Bool) (typed : Text) : Snapshot where
  validation := validate typed
  isBoolean := isBooleanQuery typed
  filters := compileFilters (parse typed excludeNegated)

/-- What is known after every `stride` characters. -/
def snapshots (query : Text) (stride : Nat) (excludeNegated : Bool) : List Snapshot :=
  (List.range (query.length / stride + 1)).map fun n =>
    snapshot excludeNegated (query.take (n * stride))

end CandidateSearch

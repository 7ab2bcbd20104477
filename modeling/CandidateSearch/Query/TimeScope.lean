import CandidateSearch.Query.Clause

/-!
# Time scopes

Whether a job title or a company is meant to be the current one, a past one, or either.
-/

namespace CandidateSearch

/-- When a match must hold. -/
inductive TimeScope where
  | current
  | past
  | both
  deriving DecidableEq, Repr

namespace TimeScope

/-- The word for the scope. -/
def name : TimeScope → Text
  | .current => "current".toList
  | .past => "past".toList
  | .both => "both".toList

/-- The scope with exactly this name. -/
def ofName? (t : Text) : Option TimeScope :=
  [current, past, both].find? (·.name == t)

/-- The scope that a free text asks for: the one it mentions, or both when it mentions both or
neither. -/
def resolve (value : Option Text) : TimeScope :=
  match value with
  | none => .both
  | some t =>
    match name current |>.occursIn t.lower, name past |>.occursIn t.lower with
    | true, false => .current
    | false, true => .past
    | _, _ => .both

end TimeScope

/-- The time scope that the query states under a label. -/
def extractTimeScope (query label : Text) : TimeScope :=
  .resolve (extractScalar query label)

end CandidateSearch

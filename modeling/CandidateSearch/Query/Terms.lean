import CandidateSearch.Query.Token

/-!
# Terms of a field

Every word and phrase of a field's content is a term, whatever operators stand around it.  With
negated terms excluded, a term that NOT applies to is left out, unless it also occurs where no NOT
applies.  `markNegation` decides which terms NOT applies to, and `extractTerms` gives the result.
-/

namespace CandidateSearch

/-! ## Negation -/

/-- What the reading of a content remembers: how deep in groups it stands, the depth of the
outermost negated group it is in, and whether the last token was NOT. -/
structure NegationState where
  depth : Nat
  negatedAt : Option Nat
  pending : Bool
  deriving DecidableEq, Repr

namespace NegationState

/-- Before the first token. -/
def start : NegationState := ⟨0, none, false⟩

/-- A term read here is negated. -/
def negates (s : NegationState) : Bool := s.pending || s.negatedAt.isSome

/-- A group opens: it is the outermost negated one if NOT stands before it and no group around it is
negated. -/
def enter (s : NegationState) : NegationState :=
  let depth := s.depth + 1
  { depth, pending := false
    negatedAt := if s.pending && s.negatedAt.isNone then some depth else s.negatedAt }

/-- A group closes; one more than was opened is ignored. -/
def leave (s : NegationState) : NegationState :=
  { depth := s.depth - 1, pending := false
    negatedAt := s.negatedAt.filter (· < s.depth) }

/-- After one token. -/
def step (s : NegationState) : Lexeme → NegationState
  | .operator op => { s with pending := op == .not }
  | .opening => s.enter
  | .closing => s.leave
  | .comma | .word _ | .quoted _ => { s with pending := false }

end NegationState

/-- A term and whether NOT applies to it. -/
structure MarkedTerm where
  text : Text
  negated : Bool
  deriving DecidableEq, Repr

/-- The term that a lexeme stands for: words and phrases, trimmed, if anything remains. -/
def Lexeme.term? : Lexeme → Option Text
  | .word t | .quoted t => if t.trim.isEmpty then none else some t.trim
  | _ => none

/-- The terms of the remaining tokens, each with whether NOT applies to it. -/
def markNegationFrom (s : NegationState) : List Token → List MarkedTerm
  | [] => []
  | t :: rest =>
    match t.lexeme.term? with
    | some text => ⟨text, s.negates⟩ :: markNegationFrom (s.step t.lexeme) rest
    | none => markNegationFrom (s.step t.lexeme) rest

/-- The terms of a content, in order, each with whether NOT applies to it. -/
def markNegation (tokens : List Token) : List MarkedTerm :=
  markNegationFrom .start tokens

/-! ## Extraction -/

/-- The terms of a content in the order of their first occurrence, and its operators in order. -/
structure TermExtraction where
  terms : List Text
  operators : List Operator
  deriving DecidableEq, Repr

/-- The terms that stay: all of them, or those that NOT does not apply to. -/
def keptTerms (excludeNegated : Bool) (marked : List MarkedTerm) : List Text :=
  (marked.filter fun m => !(excludeNegated && m.negated)).map (·.text)

/-- The terms that are left out because every occurrence is negated, each once. -/
def droppedTerms (excludeNegated : Bool) (marked : List MarkedTerm) : List Text :=
  let kept := keptTerms excludeNegated marked
  ((marked.map (·.text)).filter (!kept.contains ·)).eraseDups

/-- The terms and operators of a content. -/
def extractTerms (content : Text) (excludeNegated : Bool) : TermExtraction where
  terms := (keptTerms excludeNegated (markNegation (tokenize content))).eraseDups
  operators := scanOperators content

end CandidateSearch

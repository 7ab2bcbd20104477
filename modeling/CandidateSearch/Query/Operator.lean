import CandidateSearch.Text.Case

/-!
# Boolean operators

The three words OR, AND and NOT.  `Operator.ofWord?` reads a whole word of a query, in any case;
`scanOperators` lists the operators that stand alone anywhere in a text, inside quotes too.
-/

namespace CandidateSearch

/-- An operator word of the query language. -/
inductive Operator where
  | or
  | and
  | not
  deriving DecidableEq, Repr

namespace Operator

/-- The operator as it is written, in capitals. -/
def name : Operator → Text
  | .or => ['O', 'R']
  | .and => ['A', 'N', 'D']
  | .not => ['N', 'O', 'T']

/-- The operator with this name. -/
def ofName? (t : Text) : Option Operator :=
  if t = name .or then some .or
  else if t = name .and then some .and
  else if t = name .not then some .not
  else none

/-- The operator that a word of a query stands for, whatever its case. -/
def ofWord? (w : Text) : Option Operator := ofName? w.upper

@[simp] theorem ofName?_name (op : Operator) : ofName? op.name = some op := by
  cases op <;> rfl

end Operator

/-! ## Operators anywhere in a text -/

/-- A letter, digit or underscore of ASCII: what an operator must not touch to stand alone. -/
def isWordCharacter (c : Char) : Bool := c.isAlphanum || c == '_'

/-- The stretches of word characters of a text, empty ones between neighbouring separators
included. -/
def wordStretches (t : Text) : List Text := t.splitOnP (!isWordCharacter ·)

/-- Every operator that stands alone in a text, quoted or not, in order. -/
def scanOperators (t : Text) : List Operator :=
  (wordStretches t).filterMap fun w => Operator.ofName? (w.map Char.toUpper)

end CandidateSearch

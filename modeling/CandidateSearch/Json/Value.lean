import CandidateSearch.Text.Basic

/-!
# JSON values

What the program writes: records, filters and settings, with the keys of an object in the order in
which they are written.
-/

namespace CandidateSearch

/-- A JSON value; the program writes no fractions. -/
inductive Json where
  | null
  | bool (b : Bool)
  | int (n : Int)
  | text (t : Text)
  | array (items : List Json)
  | object (fields : List (Text × Json))
  deriving Repr, Inhabited

namespace Json

/-- An array of texts. -/
def texts (ts : List Text) : Json := .array (ts.map .text)

/-- The object with these keys. -/
def record (fields : List (String × Json)) : Json :=
  .object (fields.map fun (key, value) => (key.toList, value))

/-- Put a value in the place of the one that an object holds under a key. -/
def replace (record : Json) (key : Text) (value : Json) : Json :=
  match record with
  | .object fields => .object (fields.map fun f => if f.1 = key then (key, value) else f)
  | other => other

/-- The object has this key. -/
def hasKey (record : Json) (key : Text) : Bool :=
  match record with
  | .object fields => fields.any (·.1 == key)
  | _ => false

end Json

end CandidateSearch

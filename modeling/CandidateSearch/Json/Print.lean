import CandidateSearch.Json.Value
import CandidateSearch.Text.Numeral

/-!
# JSON text

Values are written over several lines, two spaces deeper at each level, keys in the order of the
object.  Inside a string a quote, a backslash and the control characters are escaped, and every
other character stands for itself.
-/

namespace CandidateSearch

namespace Json

/-- One character inside a JSON string. -/
def stringCharacter (c : Char) : Text :=
  if c = '"' then ['\\', '"']
  else if c = '\\' then ['\\', '\\']
  else if c = '\n' then ['\\', 'n']
  else if c = '\r' then ['\\', 'r']
  else if c = '\t' then ['\\', 't']
  else if c.toNat = 8 then ['\\', 'b']
  else if c.toNat = 12 then ['\\', 'f']
  else if c.toNat < 32 then ['\\', 'u'] ++ hexDigits 4 c.toNat
  else [c]

/-- A text as a JSON string. -/
def quote (t : Text) : Text := '"' :: t.flatMap stringCharacter ++ ['"']

/-- The end of a line and the indentation of the next, two spaces for each level. -/
def newLine (level : Nat) : Text := '\n' :: List.replicate (2 * level) ' '

mutual

/-- The text of a value that stands at a level of nesting. -/
def printAt (level : Nat) : Json → Text
  | .null => "null".toList
  | .bool true => "true".toList
  | .bool false => "false".toList
  | .int n => intDigits n
  | .text t => quote t
  | .array [] => ['[', ']']
  | .array (item :: rest) =>
    '[' :: newLine (level + 1) ++ printAt (level + 1) item ++ printItems (level + 1) rest
      ++ newLine level ++ [']']
  | .object [] => ['\x7b', '\x7d']
  | .object (field :: rest) =>
    '\x7b' :: newLine (level + 1) ++ printField (level + 1) field
      ++ printFields (level + 1) rest ++ newLine level ++ ['\x7d']
  termination_by structural j => j

/-- The further items of an array. -/
def printItems (level : Nat) : List Json → Text
  | [] => []
  | item :: rest => ',' :: newLine level ++ printAt level item ++ printItems level rest
  termination_by structural items => items

/-- The further fields of an object. -/
def printFields (level : Nat) : List (Text × Json) → Text
  | [] => []
  | field :: rest => ',' :: newLine level ++ printField level field ++ printFields level rest
  termination_by structural fields => fields

/-- A key and its value. -/
def printField (level : Nat) : Text × Json → Text
  | (key, value) => quote key ++ ':' :: ' ' :: printAt level value
  termination_by structural field => field

end

/-- The text of a value. -/
def print (j : Json) : Text := printAt 0 j

end Json

end CandidateSearch

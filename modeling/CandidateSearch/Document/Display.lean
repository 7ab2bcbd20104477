import CandidateSearch.Decimal.Notation
import CandidateSearch.Document.Basic
import CandidateSearch.Text.Duration
import CandidateSearch.Text.Utf8

/-!
# Documents in messages

A message that complains about a part of a document shows that part: `Part.display` writes it on one
line, `Part.typeName` says what type of value it is, and `excerpt` cuts what is too long out of the
middle.  A collection that stands inside itself is shown by a placeholder there.  A part that holds
a whole number of too many digits cannot be shown.
-/

namespace CandidateSearch

/-- A point of time in a message: seconds are left out when they are zero, and so are
microseconds. -/
def Timestamp.display (t : Timestamp) : Text :=
  let fine :=
    if t.microsecond ≠ 0 then [t.second, t.microsecond]
    else if t.second ≠ 0 then [t.second]
    else []
  let parts := ([t.year, t.month, t.day, t.hour, t.minute] ++ fine).map natDigits
  let zone :=
    match t.offset with
    | none => []
    | some seconds => ["tzinfo=".toList ++ offsetText seconds]
  "datetime.datetime(".toList ++ commaSeparated (parts ++ zone) ++ [')']

/-! ## Values -/

/-- The least natural with too many digits to be shown. -/
def unshownNatural : Nat := Nat.pow 10 4300

/-- A whole number, unless it has too many digits. -/
def shownInt? (n : Int) : Option Text :=
  if n.natAbs < unshownNatural then some (intDigits n) else none

namespace Document

mutual

/-- The value on one line, where `numbered` shows the collection with a number. -/
def displayWith (numbered : Nat → Option Text) : Document → Option Text
  | .null => some "None".toList
  | .bool true => some "True".toList
  | .bool false => some "False".toList
  | .int n => shownInt? n
  | .float x => some (fractionText x)
  | .text t => some t.quoted
  | .looseText t => some t.quoted
  | .bytes octets => some (quotedOctets octets)
  | .date y m d =>
    some ("datetime.date(".toList ++ commaSeparated ([y, m, d].map natDigits) ++ [')'])
  | .timestamp t => some t.display
  | .list items => do return '[' :: commaSeparated (← displayItems numbered items) ++ [']']
  | .mapping entries => do
    return '\x7b' :: commaSeparated (← displayEntries numbered entries) ++ ['\x7d']
  | .set [] => some "set()".toList
  | .set (member :: rest) => do
    let first ← displayWith numbered member
    return '\x7b' :: commaSeparated (first :: (← displayItems numbered rest)) ++ ['\x7d']
  | .pair key value => do
    let first ← displayWith numbered key
    return '(' :: commaSeparated [first, ← displayWith numbered value] ++ [')']
  | .collection n => numbered n
  termination_by structural d => d

/-- The items of a list, each on its own. -/
def displayItems (numbered : Nat → Option Text) : List Document → Option (List Text)
  | [] => some []
  | item :: rest => do
    let first ← displayWith numbered item
    return first :: (← displayItems numbered rest)
  termination_by structural items => items

/-- The entries of a mapping, each on its own. -/
def displayEntries (numbered : Nat → Option Text) :
    List (Document × Document) → Option (List Text)
  | [] => some []
  | entry :: rest => do
    let first ← displayEntry numbered entry
    return first :: (← displayEntries numbered rest)
  termination_by structural entries => entries

/-- A key and its value. -/
def displayEntry (numbered : Nat → Option Text) : Document × Document → Option Text
  | (key, value) => do
    let first ← displayWith numbered key
    return first ++ ':' :: ' ' :: (← displayWith numbered value)
  termination_by structural entry => entry

end

/-- What stands for a collection inside itself. -/
def placeholder : Document → Text
  | .mapping _ => ['\x7b', '.', '.', '.', '\x7d']
  | .set _ => "set(...)".toList
  | _ => "[...]".toList

/-- The type of the value, as messages name it. -/
def typeName : Document → Text
  | .null => "NoneType".toList
  | .bool _ => "bool".toList
  | .int _ => "int".toList
  | .float _ => "float".toList
  | .text _ | .looseText _ => "str".toList
  | .bytes _ => "bytes".toList
  | .date _ _ _ => "date".toList
  | .timestamp _ => "datetime".toList
  | .list _ => "list".toList
  | .mapping _ => "dict".toList
  | .set _ => "set".toList
  | .pair _ _ => "tuple".toList
  | .collection _ => "object".toList

end Document

namespace Part

/-- The value on one line, inside the collections with some numbers.  Every step into a collection
takes one of `rounds`. -/
def displayInside (collections : Array Document) (inside : List Nat) :
    (rounds : Nat) → Document → Option Text
  | 0, _ => none
  | rounds + 1, d =>
    d.displayWith fun n =>
      let c := collections[n]?.getD .null
      if inside.contains n then some c.placeholder
      else displayInside collections (n :: inside) rounds c

/-- The type of the value, as messages name it. -/
def typeName (p : Part) : Text := p.content.typeName

/-- The value on one line, or a remark that it cannot be shown.  No collection is entered while it
is being shown, so there are enough rounds. -/
def display (p : Part) : Text :=
  match displayInside p.collections [] (p.collections.size + 2) p.value with
  | some t => t
  | none => "<unprintable ".toList ++ p.typeName ++ " object>".toList

end Part

/-! ## Excerpts -/

/-- The characters from the beginning that fit into a number of octets. -/
def takeOctets : Nat → Text → Text
  | _, [] => []
  | room, c :: rest => if utf8Width c ≤ room then c :: takeOctets (room - utf8Width c) rest else []

/-- A text of more than fifty octets keeps those characters that fit into its first twenty-five
octets and those that fit into its last twenty-four. -/
def excerpt (t : Text) : Text :=
  if octetLength t ≤ 50 then t
  else takeOctets 25 t ++ ['.', '.', '.'] ++ (takeOctets 24 t.reverse).reverse

end CandidateSearch

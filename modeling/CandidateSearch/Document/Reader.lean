import CandidateSearch.Decimal.Nearest
import CandidateSearch.Document.Checked
import CandidateSearch.Query.TimeScope
import CandidateSearch.Text.Utf8

/-!
# Reading values from documents

One reader for each kind of value that a record holds, and the ways in which a record finds its
fields: a field may be required, may have a default, or may go by two names.  Keys that no field
goes by are ignored.

A record holds whole characters only.  Where a text of a document holds halves of characters, those
that belong to each other are put together, and `readText` replaces a half that stands alone.

Settings are the one record that is read from YAML as well, and their fields are truth values and
the names of classes.  All others are read from JSON, whose only collections are lists and objects:
lists of texts and time scopes stand in these alone, so `readTexts` takes no sets and no pairs, and
`readScope` no octets.
-/

namespace CandidateSearch

/-- A mapping from which a record is read. -/
structure Entries where
  whole : Part
  entries : List (Document × Document)

/-- The value under a key. -/
def Entries.under? (e : Entries) (key : String) : Option Part :=
  (lookupText key.toList e.entries).map e.whole.sibling

namespace Part

/-! ## Values -/

/-- A text; octets are taken for the text that they encode.  Halves of characters do not stay as they
are: a first half and a second one behind it become a character, and a half alone gives way to the
replacement. -/
def readText (p : Part) : Checked Text :=
  match p.content with
  | .text t => .good t
  | .looseText t => .good t.joined
  | .bytes octets =>
    match decodeUtf8 octets with
    | .ok t => .good t
    | .error _ => .fail .undecodableText p
  | _ => .fail .notText p

/-- A list of texts, from JSON. -/
def readTexts (p : Part) : Checked (List Text) :=
  match p.content with
  | .list items => Checked.listFrom (fun item => (p.sibling item).readText) 0 items
  | _ => .fail .notList p

/-- A time scope, by its exact name in JSON. -/
def readScope (p : Part) : Checked TimeScope :=
  match p.content with
  | .text t =>
    match TimeScope.ofName? t with
    | some scope => .good scope
    | none => .fail .notScope p
  | _ => .fail .notScope p

/-! ## Yes and no -/

/-- The words that mean yes and no. -/
def flagWords : List (Text × Bool) :=
  (["1", "t", "true", "y", "yes", "on"].map fun w => (w.toList, true))
    ++ ["0", "f", "false", "n", "no", "off"].map fun w => (w.toList, false)

/-- A yes or no in words, in any case. -/
def flagOfText? (t : Text) : Option Bool := flagWords.lookup (t.map Char.toLower)

/-- A yes or no as a number. -/
def flagOfInt? (n : Int) : Option Bool :=
  if n = 1 then some true else if n = 0 then some false else none

/-- The number fits into a word of sixty-four bits with a sign. -/
def isWord (n : Int) : Bool := -(Nat.pow 2 63 : Nat) ≤ n && n < (Nat.pow 2 63 : Nat)

/-- The fraction is a whole number whose magnitude is less than that of the least word. -/
def isWholeWord (x : Float) : Bool :=
  x.isFinite && x.floor == x && x.abs < nearestRatio (Nat.pow 2 63) 1

/-- A yes or no: a truth value, one of the words for it, or one or zero.  A number that is no word
is not even tried, and a text must consist of whole characters. -/
def readFlag (p : Part) : Checked Bool :=
  let read (flag : Option Bool) : Checked Bool :=
    match flag with
    | some b => .good b
    | none => .fail .unreadableFlag p
  match p.content with
  | .bool b => .good b
  | .text t => read (flagOfText? t)
  | .looseText _ => .fail .undecodableText p
  | .bytes octets =>
    match decodeUtf8 octets with
    | .ok t => read (flagOfText? t)
    | .error _ => .fail .unreadableFlag p
  | .int n => if isWord n then read (flagOfInt? n) else .fail .notFlag p
  | .float x =>
    if x == 1.0 then .good true
    else if x == 0.0 then .good false
    else if isWholeWord x then .fail .unreadableFlag p
    else .fail .notFlag p
  | _ => .fail .notFlag p

/-! ## Classes and records -/

/-- The name of a class, without the blanks around it; it may not be blank. -/
def readClass (p : Part) : Checked Text :=
  match p.readText with
  | .good t => if t.trim.isEmpty then .fail .blankClass p else .good t.trim
  | .bad issues => .bad issues

/-- A record of a kind, from the entries of a mapping. -/
def readRecord {α : Type} (kind : RecordKind) (read : Entries → Checked α) (p : Part) : Checked α :=
  match p.content with
  | .mapping entries => read ⟨p, entries⟩
  | _ => .fail (.notRecord kind) p

/-- Null, or what a reader reads. -/
def readOptional {α : Type} (read : Part → Checked α) (p : Part) : Checked (Option α) :=
  match p.content with
  | .null => .good none
  | _ => (read p).map some

end Part

/-! ## Fields -/

/-- A field with a default. -/
def fieldOr {α : Type} (default : α) (key : String) (read : Part → Checked α) (e : Entries) :
    Checked α :=
  match e.under? key with
  | some p => (read p).under (.key key.toList)
  | none => .good default

/-- A field that must be there. -/
def requiredField {α : Type} (key : String) (read : Part → Checked α) (e : Entries) : Checked α :=
  match e.under? key with
  | some p => (read p).under (.key key.toList)
  | none => (Checked.fail .missing e.whole).under (.key key.toList)

/-- The key under which a field with two names stands; the first name wins. -/
def keyOf (first second : String) (e : Entries) : String :=
  if (e.under? first).isSome then first
  else if (e.under? second).isSome then second
  else first

end CandidateSearch

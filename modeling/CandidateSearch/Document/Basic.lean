import CandidateSearch.Document.Timestamp
import CandidateSearch.Json.Value
import CandidateSearch.Text.Loose

/-!
# Documents

A document is the data that settings and records are read from: what a settings file holds once its
notation is understood, or a JSON value.  The keys of a mapping are documents too.  A collection may
stand in several places, even inside itself; such collections are numbered, and a `Part` of a
document is a value together with the collections that it refers to.
-/

namespace CandidateSearch

/-- A value of a document. -/
inductive Document where
  | null
  | bool (b : Bool)
  | int (n : Int)
  | float (x : Float)
  | text (t : Text)
  /-- A text that holds halves of characters. -/
  | looseText (t : LooseText)
  | bytes (octets : List UInt8)
  | date (year month day : Nat)
  | timestamp (t : Timestamp)
  | list (items : List Document)
  | mapping (entries : List (Document × Document))
  /-- A collection without repetition, in the order in which its members are shown. -/
  | set (members : List Document)
  /-- A key with its value where they stand as an item of a list. -/
  | pair (key value : Document)
  /-- The list, mapping or set with this number. -/
  | collection (number : Nat)
  deriving Repr, Inhabited

/-- The value that a loose text is. -/
def Document.ofLoose (t : LooseText) : Document :=
  match t.strict? with
  | some t => .text t
  | none => .looseText t

/-- A value of a document, with the numbered collections of that document. -/
structure Part where
  collections : Array Document := #[]
  value : Document
  deriving Repr, Inhabited

/-- The value of a document without numbered collections. -/
def Document.whole (d : Document) : Part := { value := d }

namespace Part

/-- Another value of the same document. -/
def sibling (p : Part) (d : Document) : Part := { p with value := d }

/-- The value itself, where only its number stands. -/
def content (p : Part) : Document :=
  match p.value with
  | .collection n => p.collections[n]?.getD .null
  | d => d

end Part

/-- The value among entries under a text. -/
def lookupText (key : Text) : List (Document × Document) → Option Document
  | [] => none
  | (.text k, value) :: rest => if k = key then some value else lookupText key rest
  | _ :: rest => lookupText key rest

mutual

/-- A JSON value as a document. -/
def Json.toDocument : Json → Document
  | .null => .null
  | .bool b => .bool b
  | .int n => .int n
  | .text t => .text t
  | .array items => .list (toDocuments items)
  | .object fields => .mapping (toEntries fields)
  termination_by structural j => j

/-- The items of an array as documents. -/
def Json.toDocuments : List Json → List Document
  | [] => []
  | item :: rest => item.toDocument :: toDocuments rest
  termination_by structural items => items

/-- The fields of an object as entries of a mapping. -/
def Json.toEntries : List (Text × Json) → List (Document × Document)
  | [] => []
  | field :: rest => toEntry field :: toEntries rest
  termination_by structural fields => fields

/-- A field of an object as an entry of a mapping. -/
def Json.toEntry : Text × Json → Document × Document
  | (key, value) => (.text key, value.toDocument)
  termination_by structural field => field

end

end CandidateSearch

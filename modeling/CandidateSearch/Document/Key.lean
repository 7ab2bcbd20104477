import CandidateSearch.Decimal.Shortest
import CandidateSearch.Document.Basic

/-!
# Keys of mappings

Two keys are the same when their values are: numbers by their exact value, whatever their notation,
points of time by the moment that they name.  A value without an equal, such as the fraction that is
no number, is the same key only where it is the very same value, which `origin` tells.
-/

namespace CandidateSearch

/-- A value as a key, and a number that only its own occurrences share. -/
structure Key where
  value : Document
  origin : Nat
  deriving Repr, Inhabited

namespace Key

/-! ## Exact numbers -/

/-- A number `mantissa * 2 ^ exponent`. -/
structure Exact where
  mantissa : Int
  exponent : Int

/-- The two numbers are equal. -/
def Exact.same (a b : Exact) : Bool :=
  a.mantissa * (Nat.pow 2 (a.exponent - b.exponent).toNat : Nat)
    == b.mantissa * (Nat.pow 2 (b.exponent - a.exponent).toNat : Nat)

/-- The exact value of a finite fraction. -/
def Exact.ofFloat (x : Float) : Exact :=
  let magnitude := x.abs.toBits
  let d := Dyadic.ofBits magnitude
  ⟨if x.toBits = magnitude then d.mantissa else -d.mantissa, d.exponent⟩

/-- The exact value of a number; truth values count as one and zero. -/
def exactNumber? : Document → Option Exact
  | .bool b => some ⟨if b then 1 else 0, 0⟩
  | .int n => some ⟨n, 0⟩
  | .float x => if x.isFinite then some (.ofFloat x) else none
  | _ => none

/-! ## Sameness -/

/-- The values are equal. -/
def sameValue (a b : Document) : Bool :=
  match a, b with
  | .null, .null => true
  | .text s, .text t => s == t
  | .looseText s, .looseText t => s == t
  | .bytes s, .bytes t => s == t
  | .date y m d, .date y' m' d' => y == y' && m == m' && d == d'
  | .timestamp s, .timestamp t => s.sameMoment t
  | .float x, .float y => x == y
  | _, _ =>
    match exactNumber? a, exactNumber? b with
    | some x, some y => x.same y
    | _, _ => false

/-- The two keys are the same. -/
def same (a b : Key) : Bool :=
  sameValue a.value b.value || a.origin == b.origin

end Key

/-- Put a value under a key: in the place of the same key, else at the end. -/
def putEntry (key : Key) (value : Document) : List (Key × Document) → List (Key × Document)
  | [] => [(key, value)]
  | (k, v) :: rest =>
    if k.same key then (k, value) :: rest else (k, v) :: putEntry key value rest

end CandidateSearch

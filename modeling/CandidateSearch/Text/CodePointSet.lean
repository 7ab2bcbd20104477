/-!
# Sets of code points

A property of characters is stored as the ascending list of code points at which it changes, which
is short for every property of the character standard.
-/

namespace CandidateSearch

/-- A set of code points, by the places at which membership changes; zero starts outside. -/
structure CodePointSet where
  /-- The ascending code points at which membership changes. -/
  flips : List Nat

/-- Membership changes once at each place up to the code point itself. -/
def memberAfter (inside : Bool) (flips : List Nat) (n : Nat) : Bool :=
  match flips with
  | [] => inside
  | f :: rest => if f ≤ n then memberAfter (!inside) rest n else inside

/-- The character belongs to the set. -/
def CodePointSet.contains (s : CodePointSet) (c : Char) : Bool :=
  memberAfter false s.flips c.toNat

/-- The greatest of the ascending places that is not beyond a code point, or `start`. -/
def lastFlip (start : Nat) (flips : List Nat) (n : Nat) : Nat :=
  match flips with
  | [] => start
  | f :: rest => if f ≤ n then lastFlip f rest n else start

/-- How far a member stands behind the first one of its stretch. -/
def CodePointSet.distance (s : CodePointSet) (c : Char) : Nat :=
  c.toNat - lastFlip 0 s.flips c.toNat

end CandidateSearch

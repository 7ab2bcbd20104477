import CandidateSearch.Document.Key

/-!
# The order of a set

A set keeps its members in a table, and they are shown in the order of the table.  A number goes to
the slot that its residue names, or to one of those behind it, or from there on to slots further
away.  `arranged` gives that order where all members are numbers; other members stay as they come.
-/

namespace CandidateSearch

namespace Key

/-- The prime modulo which residues of numbers are taken. -/
def residuePrime : Nat := Nat.pow 2 61 - 1

/-- The residue of a number, with its sign; minus one gives way to minus two.  Since
`2 ^ 61` leaves one, exponents of two count modulo sixty-one. -/
def Exact.residue (x : Exact) : Int :=
  let r := x.mantissa.natAbs * Nat.pow 2 (x.exponent % 61).toNat % residuePrime
  let signed : Int := if x.mantissa < 0 then -r else r
  if signed = -1 then -2 else signed

end Key

/-! ## Tables -/

/-- A table of members. -/
abbrev MemberTable := Array (Option Document)

namespace MemberTable

/-- How many slots a table for so many members has: eight for up to four, else the least power of
two that is more than twice their number. -/
def sizeFor (members : Nat) : Nat := if members < 5 then 8 else Nat.pow 2 ((2 * members).log2 + 1)

/-- The first free slot on the way from a slot: ten slots in a row if the table reaches so far, else
that one, and then a slot that the remaining bits of the residue choose. -/
def freeSlot (table : MemberTable) (slot bits : Nat) : (rounds : Nat) → Option Nat
  | 0 => none
  | rounds + 1 =>
    let inRow := if slot + 9 < table.size then 10 else 1
    match (List.range inRow).find? fun (j : Nat) => (table[slot + j]?.join).isNone with
    | some j => some (slot + j)
    | none =>
      let bits := bits / 32
      freeSlot table ((5 * slot + 1 + bits) % table.size) bits rounds

/-- Put a member into the table. -/
def insert (table : MemberTable) (member : Document) (residue : Int) : MemberTable :=
  let bits := (residue % (Nat.pow 2 64 : Nat)).toNat
  match freeSlot table (bits % table.size) bits (table.size + 14) with
  | some slot => table.setIfInBounds slot (some member)
  | none => table

end MemberTable

/-- The residues of members that are all numbers. -/
def residues? (members : List Document) : Option (List Int) :=
  members.mapM fun d => (Key.exactNumber? d).map (·.residue)

/-- The members of a set in the order in which they are shown. -/
def arranged (members : List Document) : List Document :=
  match residues? members with
  | none => members
  | some residues =>
    let table : MemberTable := Array.replicate (MemberTable.sizeFor members.length) none
    ((members.zip residues).foldl (fun t (d, r) => t.insert d r) table).toList.filterMap id

end CandidateSearch

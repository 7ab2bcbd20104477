import CandidateSearch.Text.Basic

/-!
# Parenthesised groups

`closingFrom` finds the parenthesis that brings the nesting back to zero.  Parentheses inside a
closed pair of quotes do not count, and a quote without a partner is an ordinary character.
`groupEnd?` answers for any starting index, counted from the end when it is negative.
-/

namespace CandidateSearch

/-- The position of the `)` that brings the nesting back to zero in a text that begins at position
`pos`, where `depth` groups are open. -/
def closingFrom (pos : Nat) (depth : Int) (t : Text) : Option Nat :=
  match t with
  | [] => none
  | c :: rest =>
    if c = '"' then
      match h : Text.after? '"' rest with
      | none => closingFrom (pos + 1) depth rest
      | some beyond =>
        have : beyond.length < rest.length := Text.length_of_after? h
        closingFrom (pos + 1 + (rest.length - beyond.length)) depth beyond
    else if c = '(' then closingFrom (pos + 1) (depth + 1) rest
    else if c = ')' then
      if depth - 1 = 0 then some pos else closingFrom (pos + 1) (depth - 1) rest
    else closingFrom (pos + 1) depth rest
  termination_by t.length
  decreasing_by all_goals (simp only [List.length_cons]; omega)

/-- The position of the `)` that closes the group beginning at `start`. -/
def groupEnd (t : Text) (start : Nat) : Option Nat := closingFrom start 0 (t.drop start)

/-! ## Indices counted from the end -/

/-- The same search begun `back` characters before the end of the text, where indices are negative.
It runs on over index zero into the whole text, and a closed pair of quotes is looked for in the
text as a whole, so it leads on to a plain index. -/
def closingFromBack (t : Text) (depth : Int) : Nat → Option Int
  | 0 => (closingFrom 0 depth t).map Int.ofNat
  | back + 1 =>
    let next := if back = 0 then 0 else t.length - back
    match t[t.length - (back + 1)]? with
    | none => none
    | some c =>
      if c = '"' then
        match Text.after? '"' (t.drop next) with
        | none => closingFromBack t depth back
        | some beyond =>
          (closingFrom (t.length - beyond.length) depth beyond).map Int.ofNat
      else if c = '(' then closingFromBack t (depth + 1) back
      else if c = ')' then
        if depth - 1 = 0 then some (-((back : Int) + 1)) else closingFromBack t (depth - 1) back
      else closingFromBack t depth back

/-- An index that lies before the beginning of the text. -/
structure IndexOutOfRange where
  index : Int
  deriving DecidableEq, Repr

/-- The index of the `)` that closes the group beginning at an index, which counts from the end when
it is negative. -/
def groupEnd? (t : Text) (start : Int) : Except IndexOutOfRange (Option Int) :=
  if 0 ≤ start then .ok ((groupEnd t start.toNat).map Int.ofNat)
  else if start < -(t.length : Int) then .error ⟨start⟩
  else .ok (closingFromBack t 0 start.natAbs)

end CandidateSearch

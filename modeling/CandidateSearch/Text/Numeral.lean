import CandidateSearch.Text.Basic

/-!
# Numbers in text

Whole numbers in decimal digits, and code points in hexadecimal digits of a fixed width.
-/

namespace CandidateSearch

/-- A natural number in a base, filled up with zeros on the left. -/
def paddedDigits (base width n : Nat) : Text :=
  let digits := Nat.toDigits base n
  List.replicate (width - digits.length) '0' ++ digits

/-- A code point in small hexadecimal digits. -/
def hexDigits (width n : Nat) : Text := paddedDigits 16 width n

/-- A natural number in decimal digits. -/
def natDigits (n : Nat) : Text := Nat.toDigits 10 n

/-- A whole number in decimal digits, with a minus sign if it is negative. -/
def intDigits (n : Int) : Text :=
  if n < 0 then '-' :: natDigits n.natAbs else natDigits n.natAbs

end CandidateSearch

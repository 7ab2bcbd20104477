import CandidateSearch.Decimal.Nearest
import CandidateSearch.Decimal.Shortest

/-!
# Fractions in text

A number is written with the fewest digits that identify it, with at least one digit behind the
point.  From 10^16 on and below 10^-4 the point stands behind the first digit and a signed exponent
of at least two digits follows.  `readFraction?` reads such a notation to the nearest number.
-/

namespace CandidateSearch

/-! ## Writing -/

/-- The digits of a positive decimal, laid out. -/
def layOut (d : Decimal) : Text :=
  let digits := natDigits d.digits
  let leading : Int := digits.length + d.exponent - 1
  if -4 ≤ leading && leading < 16 then
    if 0 ≤ d.exponent then digits ++ List.replicate d.exponent.toNat '0' ++ ['.', '0']
    else if 0 ≤ leading then
      digits.take (leading.toNat + 1) ++ '.' :: digits.drop (leading.toNat + 1)
    else ['0', '.'] ++ List.replicate (-leading - 1).toNat '0' ++ digits
  else
    let tail := if digits.length = 1 then [] else '.' :: digits.drop 1
    digits.take 1 ++ tail ++ ['e', if leading < 0 then '-' else '+']
      ++ paddedDigits 10 2 leading.natAbs

/-- The text of a floating-point number. -/
def fractionText (x : Float) : Text :=
  if x.isNaN then "nan".toList
  else
    let magnitude : UInt64 := x.toBits &&& 0x7FFFFFFFFFFFFFFF
    let sign : Text := if x.toBits = magnitude then [] else ['-']
    if x.isInf then sign ++ "inf".toList
    else if magnitude = 0 then sign ++ "0.0".toList
    else sign ++ layOut (shortestDecimal (.ofBits magnitude))

/-! ## Reading -/

/-- The value of decimal digits, a separating point or not. -/
def digitsValue (t : Text) : Nat := t.foldl (fun n c => 10 * n + (c.toNat - '0'.toNat)) 0

/-- An exponent with its sign, which may be absent. -/
def readExponent? (t : Text) : Option Int :=
  let (negative, digits) : Bool × Text :=
    match t with
    | '-' :: r => (true, r)
    | '+' :: r => (false, r)
    | r => (false, r)
  if digits.isEmpty || digits.any (!·.isDigit) then none
  else some (if negative then -(digitsValue digits : Int) else digitsValue digits)

/-- Read digits with a point and an exponent, each of which may be absent, but not all digits. -/
def readFraction? (t : Text) : Option Float :=
  let whole := t.takeWhile Char.isDigit
  let rest := t.dropWhile Char.isDigit
  let (part, rest) : Text × Text :=
    match rest with
    | '.' :: r => (r.takeWhile Char.isDigit, r.dropWhile Char.isDigit)
    | r => ([], r)
  if whole.isEmpty && part.isEmpty then none
  else
    let value (e : Int) := nearestFloat (digitsValue (whole ++ part)) (e - part.length)
    match rest with
    | [] => some (value 0)
    | 'e' :: r | 'E' :: r => (readExponent? r).map value
    | _ => none

end CandidateSearch

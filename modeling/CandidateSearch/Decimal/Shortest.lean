import CandidateSearch.Text.Numeral

/-!
# The shortest decimal that identifies a number

A binary floating-point number stands for every real that rounds to it.  Of the decimals in that
interval, `shortestDecimal` takes one with the fewest digits, and of those the nearest to the
number, with the even digit on a tie.  All comparisons are exact, between naturals.
-/

namespace CandidateSearch

/-- A positive number `mantissa * 2 ^ exponent` with the reals that round to it. -/
structure Dyadic where
  mantissa : Nat
  exponent : Int
  /-- The next smaller number is only half as far away as the next larger one. -/
  atPowerOfTwo : Bool
  deriving DecidableEq, Repr

/-- A decimal `digits * 10 ^ exponent`. -/
structure Decimal where
  digits : Nat
  exponent : Int
  deriving DecidableEq, Repr

namespace Dyadic

/-- The number that the magnitude bits of a finite binary64 value describe. -/
def ofBits (bits : UInt64) : Dyadic :=
  let hidden := Nat.pow 2 52
  let fraction := bits.toNat % hidden
  let biased := bits.toNat / hidden % Nat.pow 2 11
  if biased = 0 then ⟨fraction, -1074, false⟩
  else ⟨hidden + fraction, (biased : Int) - 1075, fraction = 0 && 1 < biased⟩

/-- A common denominator for the number and the ends of its interval, which lie on quarters. -/
def denominator (x : Dyadic) : Nat := 4 * Nat.pow 2 (-x.exponent).toNat

/-- A count of quarters of the last binary place, over the common denominator. -/
def quarters (x : Dyadic) (n : Nat) : Nat := n * Nat.pow 2 x.exponent.toNat

/-- How a decimal compares with a count of quarters. -/
def compareWith (x : Dyadic) (d : Decimal) (n : Nat) : Ordering :=
  compare (d.digits * Nat.pow 10 d.exponent.toNat * x.denominator)
    (x.quarters n * Nat.pow 10 (-d.exponent).toNat)

/-- The decimal rounds to the number: it lies between the middles towards both neighbours, and may
be such a middle if the mantissa is even. -/
def identifiedBy (x : Dyadic) (d : Decimal) : Bool :=
  let below := if x.atPowerOfTwo then 4 * x.mantissa - 1 else 4 * x.mantissa - 2
  let above := 4 * x.mantissa + 2
  let ends := x.mantissa % 2 = 0
  let low := x.compareWith d below
  let high := x.compareWith d above
  (low = .gt || ends && low = .eq) && (high = .lt || ends && high = .eq)

/-- The number in units of a power of ten, rounded down. -/
def floorAt (x : Dyadic) (place : Int) : Nat :=
  x.quarters (4 * x.mantissa) * Nat.pow 10 (-place).toNat /
    (x.denominator * Nat.pow 10 place.toNat)

/-- The least power of ten that is greater than the number. -/
def scale (x : Dyadic) : Int :=
  let whole := x.floorAt 0
  if 0 < whole then (natDigits whole).length
  else
    match (List.range 330).find? fun (j : Nat) => 0 < x.floorAt (-(j : Int)) with
    | some j => 1 - j
    | none => 1

/-- The nearer of the two decimals around the number at a place, if it identifies the number; on a
tie the even one is taken. -/
def candidateAt (x : Dyadic) (place : Int) : Option Decimal :=
  let floor := x.floorAt place
  let down : Decimal := ⟨floor, place⟩
  let up : Decimal := ⟨floor + 1, place⟩
  let middle := x.compareWith ⟨10 * floor + 5, place - 1⟩ (4 * x.mantissa)
  let preferUp := middle = .lt || middle = .eq && floor % 2 = 1
  match x.identifiedBy down, x.identifiedBy up with
  | true, true => some (if preferUp then up else down)
  | true, false => some down
  | false, true => some up
  | false, false => none

end Dyadic

/-- Drop the zeros at the end of the digits, at most as many as `fuel`. -/
def Decimal.dropZeros (d : Decimal) : (fuel : Nat) → Decimal
  | 0 => d
  | fuel + 1 =>
    if 0 < d.digits && d.digits % 10 = 0 then
      dropZeros ⟨d.digits / 10, d.exponent + 1⟩ fuel
    else d

/-- The decimal with the fewest digits that identifies the number.  Seventeen digits are always
enough. -/
def shortestDecimal (x : Dyadic) : Decimal :=
  match (List.range 17).findSome? fun (n : Nat) => x.candidateAt (x.scale - (n + 1)) with
  | some d => d.dropZeros 20
  | none => ⟨x.floorAt (x.scale - 17), x.scale - 17⟩

end CandidateSearch

import CandidateSearch.Text.Numeral

/-!
# The nearest floating-point number

A positive ratio of naturals lies between two neighbouring binary64 numbers, or beyond the greatest.
`nearestFloat` takes the nearer of the two, and of two that are equally near the one with the even
mantissa.  The bits are found by comparing naturals, so the result is exact for ratios of any size.
-/

namespace CandidateSearch

/-- The whole number nearest to a ratio, the even one of two that are equally near. -/
def roundHalfEven (numerator denominator : Nat) : Nat :=
  let floor := numerator / denominator
  let rest := 2 * (numerator % denominator)
  if rest < denominator then floor
  else if denominator < rest then floor + 1
  else floor + floor % 2

/-- The greatest exponent of a power of two that is at most a positive ratio. -/
def binaryPlace (numerator denominator : Nat) : Int :=
  let guess : Int := (numerator.log2 : Int) - denominator.log2
  if denominator * Nat.pow 2 guess.toNat ≤ numerator * Nat.pow 2 (-guess).toNat then guess
  else guess - 1

/-- The bits of infinity, which follow those of the greatest number. -/
def infinityBits : Nat := 0x7FF0000000000000

/-- The bits of the number nearest to a ratio.  The last binary place is worth `2 ^ place`, at least
`2 ^ -1074`; a mantissa that is rounded up to the next power of two carries into the exponent. -/
def nearestBits (numerator denominator : Nat) : Nat :=
  if numerator = 0 then 0
  else
    let place := max (binaryPlace numerator denominator - 52) (-1074)
    let mantissa := roundHalfEven (numerator * Nat.pow 2 (-place).toNat)
      (denominator * Nat.pow 2 place.toNat)
    min ((place + 1074).toNat * Nat.pow 2 52 + mantissa) infinityBits

/-- Infinity. -/
def infinity : Float := .ofBits (UInt64.ofNat infinityBits)

/-- The number nearest to a ratio. -/
def nearestRatio (numerator denominator : Nat) : Float :=
  .ofBits (UInt64.ofNat (nearestBits numerator denominator))

/-- The number nearest to `mantissa * 10 ^ exponent`.  A decimal whose first digit stands far beyond
the range of all numbers is infinite or zero. -/
def nearestFloat (mantissa : Nat) (exponent : Int) : Float :=
  let leading : Int := (natDigits mantissa).length + exponent
  if mantissa = 0 then 0.0
  else if 400 < leading then infinity
  else if leading < -400 then 0.0
  else nearestRatio (mantissa * Nat.pow 10 exponent.toNat) (Nat.pow 10 (-exponent).toNat)

/-- The finite number nearest to a natural, if there is one. -/
def nearestNatural? (n : Nat) : Option Float :=
  if nearestBits n 1 < infinityBits then some (nearestRatio n 1) else none

end CandidateSearch

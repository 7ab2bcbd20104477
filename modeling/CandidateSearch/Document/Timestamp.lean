/-!
# Points of time

A point of time is a day of the calendar and a time of that day; it may say how far its clock is
from universal time.  `Timestamp.moment` counts the microseconds, so that two points of time can be
compared whatever their clocks.
-/

namespace CandidateSearch

/-- A point of time: a day, a time of that day, and the distance from universal time in seconds, if
it is stated. -/
structure Timestamp where
  year : Nat
  month : Nat
  day : Nat
  hour : Nat
  minute : Nat
  second : Nat
  microsecond : Nat
  offset : Option Int
  deriving DecidableEq, Repr

/-! ## The calendar -/

/-- The year has a day more. -/
def isLeapYear (year : Nat) : Bool := year % 4 = 0 && (year % 100 ≠ 0 || year % 400 = 0)

/-- How many days a month has. -/
def daysInMonth (year month : Nat) : Nat :=
  if month = 2 then if isLeapYear year then 29 else 28
  else if [4, 6, 9, 11].contains month then 30
  else 31

/-- How many days lie between the first day of the calendar and the first day of a year. -/
def daysBeforeYear (year : Nat) : Nat :=
  let past := year - 1
  past * 365 + past / 4 - past / 100 + past / 400

/-- How many days of a year lie before a month. -/
def daysBeforeMonth (year month : Nat) : Nat :=
  (List.range (month - 1)).foldl (fun days m => days + daysInMonth year (m + 1)) 0

/-! ## Moments -/

namespace Timestamp

/-- The moment in microseconds: of universal time if the distance from it is stated, else of the
clock itself. -/
def moment (t : Timestamp) : Int :=
  let days := daysBeforeYear t.year + daysBeforeMonth t.year t.month + t.day
  let seconds : Int := ((days * 24 + t.hour) * 60 + t.minute) * 60 + t.second
  (seconds - t.offset.getD 0) * 1000000 + t.microsecond

/-- The two are the same moment.  One that states its distance from universal time is never the same
as one that does not. -/
def sameMoment (s t : Timestamp) : Bool :=
  s.offset.isSome == t.offset.isSome && s.moment == t.moment

end Timestamp

end CandidateSearch

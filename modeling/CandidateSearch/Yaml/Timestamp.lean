import CandidateSearch.Document.Basic
import CandidateSearch.Yaml.Fault

/-!
# Points of time in a YAML text

A day is written as year, month and day between hyphens; a time may follow, with a fraction of a
second and a time zone.  `WrittenTime.read?` reads the notation, `WrittenTime.value` gives its value
or says what is out of range.
-/

namespace CandidateSearch.Yaml

/-- A time zone as it is written. -/
inductive WrittenZone where
  | universal
  | offset (negative : Bool) (hours minutes : Nat)
  deriving DecidableEq, Repr

/-- A time of day as it is written. -/
structure WrittenClock where
  hour : Nat
  minute : Nat
  second : Nat
  fraction : Text
  zone : Option WrittenZone
  deriving DecidableEq, Repr

/-- A point of time as it is written. -/
structure WrittenTime where
  year : Nat
  month : Nat
  day : Nat
  /-- Month and day have two digits each. -/
  isFull : Bool
  clock : Option WrittenClock
  deriving DecidableEq, Repr

/-- The value of decimal digits. -/
def decimalValue (digits : Text) : Nat :=
  digits.foldl (fun n c => 10 * n + (c.toNat - '0'.toNat)) 0

/-- A number of `least` to `most` digits, and what follows it. -/
def readDigits? (least most : Nat) (t : Text) : Option (Text × Text) :=
  let digits := (t.take most).takeWhile Char.isDigit
  if digits.length < least then none else some (digits, t.drop digits.length)

/-- What follows a character. -/
def afterChar? (c : Char) (t : Text) : Option Text :=
  match t with
  | d :: rest => if d = c then some rest else none
  | [] => none

/-- A time zone, up to the end. -/
def readZone? (t : Text) : Option (Option WrittenZone) :=
  if t.isEmpty then some none
  else
    match t.dropWhile fun c => c == ' ' || c == '\t' with
    | ['Z'] => some (some .universal)
    | sign :: rest =>
      if sign ≠ '+' && sign ≠ '-' then none
      else do
        let (hours, rest) ← readDigits? 1 2 rest
        let minutes ←
          if rest.isEmpty then some ['0']
          else do
            let (minutes, rest) ← readDigits? 2 2 (← afterChar? ':' rest)
            if rest.isEmpty then some minutes else none
        return some (.offset (sign = '-') (decimalValue hours) (decimalValue minutes))
    | [] => none

/-- A time of day, up to the end. -/
def readClock? (t : Text) : Option WrittenClock := do
  let (hour, t) ← readDigits? 1 2 t
  let (minute, t) ← readDigits? 2 2 (← afterChar? ':' t)
  let (second, t) ← readDigits? 2 2 (← afterChar? ':' t)
  let (fraction, t) : Text × Text :=
    match t with
    | '.' :: rest => (rest.takeWhile Char.isDigit, rest.dropWhile Char.isDigit)
    | _ => ([], t)
  let zone ← readZone? t
  return ⟨decimalValue hour, decimalValue minute, decimalValue second, fraction, zone⟩

namespace WrittenTime

/-- A point of time. -/
def read? (t : Text) : Option WrittenTime := do
  let (year, t) ← readDigits? 4 4 t
  let (month, t) ← readDigits? 1 2 (← afterChar? '-' t)
  let (day, t) ← readDigits? 1 2 (← afterChar? '-' t)
  let clock : Option WrittenClock ←
    match t with
    | [] => some none
    | c :: rest =>
      if c = 'T' || c = 't' then (readClock? rest).map some
      else if c = ' ' || c = '\t' then
        (readClock? (rest.dropWhile fun c => c == ' ' || c == '\t')).map some
      else none
  return ⟨decimalValue year, decimalValue month, decimalValue day,
    month.length = 2 && day.length = 2, clock⟩

/-- The day exists. -/
def checkDate (t : WrittenTime) : Except ValueFault Unit :=
  if t.year = 0 then .error (.yearOutOfRange t.year)
  else if t.month = 0 || 12 < t.month then .error .monthOutOfRange
  else if t.day = 0 || daysInMonth t.year t.month < t.day then .error .dayOutOfRange
  else .ok ()

/-- The time of day exists. -/
def checkClock (c : WrittenClock) : Except ValueFault Unit :=
  if 23 < c.hour then .error .hourOutOfRange
  else if 59 < c.minute then .error .minuteOutOfRange
  else if 59 < c.second then .error .secondOutOfRange
  else .ok ()

/-- The distance from universal time in seconds, which must be less than a day. -/
def offset (zone : Option WrittenZone) : Except ValueFault (Option Int) :=
  match zone with
  | none => .ok none
  | some .universal => .ok (some 0)
  | some (.offset negative hours minutes) =>
    let distance : Int := hours * 3600 + minutes * 60
    let seconds := if negative then -distance else distance
    if distance < 86400 then .ok (some seconds) else .error (.offsetTooLarge seconds)

/-- The point of time, which is a day alone if no time is written. -/
def value (t : WrittenTime) : Except ValueFault Document :=
  match t.clock with
  | none => do
    t.checkDate
    return .date t.year t.month t.day
  | some c => do
    let offset ← offset c.zone
    t.checkDate
    checkClock c
    let micro := decimalValue ((c.fraction ++ List.replicate 6 '0').take 6)
    return .timestamp
      ⟨t.year, t.month, t.day, c.hour, c.minute, c.second, micro, offset⟩

end WrittenTime

end CandidateSearch.Yaml

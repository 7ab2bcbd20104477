import CandidateSearch.Text.Duration

/-!
# What can be wrong with a YAML text

A text may fail to be YAML at four levels: its characters, its tokens, its structure, and the
references between its nodes.  A text that is YAML may still not denote a value: a tag may be
unknown or not fit its node, and a number or a date may lie outside its range.
-/

namespace CandidateSearch.Yaml

/-- Why a number or a date that is written correctly has no value. -/
inductive ValueFault where
  /-- An escape names a number that is no code point. -/
  | codePointTooLarge
  /-- The digits do not form a whole number in this base. -/
  | notInteger (base : Nat) (digits : LooseText)
  /-- The text does not form a fraction. -/
  | notFraction (text : LooseText)
  | tooManyDigits (count : Nat)
  | yearOutOfRange (year : Nat)
  | monthOutOfRange
  | dayOutOfRange
  | hourOutOfRange
  | minuteOutOfRange
  | secondOutOfRange
  /-- A time zone lies a day or more from universal time, by so many seconds. -/
  | offsetTooLarge (seconds : Int)
  deriving DecidableEq, Repr

/-- The fault in words.  Digits that form no whole number are shown up to a length. -/
def ValueFault.message : ValueFault → Text
  | .codePointTooLarge => "chr() arg not in range(0x110000)".toList
  | .notInteger base digits =>
    "invalid literal for int() with base ".toList ++ natDigits base ++ ": ".toList
      ++ digits.quoted.take 200
  | .notFraction t => "could not convert string to float: ".toList ++ t.quoted
  | .tooManyDigits count =>
    "Exceeds the limit (4300 digits) for integer string conversion: value has ".toList
      ++ natDigits count
      ++ " digits; use sys.set_int_max_str_digits() to increase the limit".toList
  | .yearOutOfRange year => "year ".toList ++ natDigits year ++ " is out of range".toList
  | .monthOutOfRange => "month must be in 1..12".toList
  | .dayOutOfRange => "day is out of range for month".toList
  | .hourOutOfRange => "hour must be in 0..23".toList
  | .minuteOutOfRange => "minute must be in 0..59".toList
  | .secondOutOfRange => "second must be in 0..59".toList
  | .offsetTooLarge seconds =>
    "offset must be a timedelta strictly between -timedelta(hours=24) and ".toList
      ++ "timedelta(hours=24), not ".toList ++ durationText seconds ++ ['.']

/-- Why a text has no value as YAML. -/
inductive Fault where
  /-- The text holds a character that YAML does not allow. -/
  | forbiddenCharacter
  /-- No token can be read. -/
  | badToken
  /-- The tokens do not fit together. -/
  | badStructure
  /-- An alias names no node, a name is given twice, or a second document follows. -/
  | badReference
  /-- A node has an unknown tag or one that does not fit it, or a key that cannot be a key. -/
  | badConstruction
  /-- Collections are nested too deeply, or the value that stands for a mapping is that mapping. -/
  | tooDeep
  /-- A number is too large to be worked with. -/
  | overflow
  /-- A node is tagged as a truth value and is none. -/
  | unknownFlag
  /-- A node is tagged as a number and is empty. -/
  | emptyNumber
  /-- A node is tagged as a point of time and is none. -/
  | malformedTimestamp
  /-- A mapping is tagged as a point of time. -/
  | timestampMapping
  /-- A number or a date is out of range. -/
  | badValue (fault : ValueFault)
  deriving DecidableEq, Repr

end CandidateSearch.Yaml

import CandidateSearch.Decimal.Notation
import CandidateSearch.Text.Case
import CandidateSearch.Text.Digit
import CandidateSearch.Yaml.Scalar
import CandidateSearch.Yaml.Tag

/-!
# Numbers of a YAML text

A whole number is written in decimal digits, in the base two, eight or sixteen behind a mark, or in
sixtieths with colons between them; a fraction in decimal digits or in sixtieths.  Underscores may
stand anywhere.  The digits may belong to any script.
-/

namespace CandidateSearch.Yaml

/-! ## Characters of numbers -/

/-- The text without underscores. -/
def withoutUnderscores (t : LooseText) : LooseText := t.filter (· != .char '_')

/-- The text without one sign in front. -/
def withoutLeadingSign (t : LooseText) : LooseText :=
  match t with
  | .char '-' :: rest | .char '+' :: rest => rest
  | _ => t

/-- The text begins with a minus sign. -/
def isNegative (t : LooseText) : Bool := t.head? == some (.char '-')

/-- The parts of a text between colons. -/
def colonParts (t : LooseText) : List LooseText := t.splitOn (.char ':')

/-- A code point as numbers are read: beyond ASCII a digit of any script stands for the digit of its
value, a blank for a space, and nothing else has a place in a number. -/
def numeralCharacter (p : CodePoint) : Char :=
  match p with
  | .half _ => '?'
  | .char c =>
    if c.toNat < 0x7F then c
    else if isBlank c then ' '
    else
      match decimalDigit? c with
      | some n => Char.ofNat ('0'.toNat + n)
      | none => '?'

/-- A space, or a control that moves the cursor: what may stand around a number. -/
def isNumeralSpace (c : Char) : Bool := c == ' ' || (9 ≤ c.toNat && c.toNat ≤ 13)

/-- The characters of a number, without the spaces around it. -/
def numeralText (t : LooseText) : Text :=
  let inner := (t.map numeralCharacter).dropWhile isNumeralSpace
  (inner.reverse.dropWhile isNumeralSpace).reverse

/-! ## Whole numbers -/

/-- The value of a digit of a base up to sixteen. -/
def digitOf? (base : Nat) (c : Char) : Option Nat := (hexDigit? c).filter (· < base)

/-- The letter that may mark the digits of a base. -/
def baseMark? (base : Nat) : Option Char :=
  if base = 2 then some 'b' else if base = 8 then some 'o' else if base = 16 then some 'x' else none

/-- The digits of a base without the mark of the base in front. -/
def withoutMark (base : Nat) (t : Text) : Text :=
  match t with
  | '0' :: mark :: digits =>
    if baseMark? base = some mark.toLower then digits else t
  | _ => t

/-- How many decimal digits a number may have. -/
def decimalDigitLimit : Nat := 4300

/-- A whole number in a base: spaces around it, a sign and the mark of the base may stand there.
Too many decimal digits are refused whatever follows them. -/
def readInteger (base : Nat) (t : LooseText) : Except ValueFault Int :=
  let number := numeralText t
  let digits := withoutMark base (withoutSign number)
  let count := (digits.takeWhile Char.isDigit).length
  if base = 10 && decimalDigitLimit < count then .error (.tooManyDigits count)
  else
    match digits.foldlM (fun n c => (digitOf? base c).map (base * n + ·)) 0 with
    | some n =>
      if digits.isEmpty then .error (.notInteger base t)
      else .ok (if number.head? = some '-' then -n else n)
    | none => .error (.notInteger base t)

/-- Numbers to the base sixty, the last one first. -/
def sixtieths (digits : List Int) : Int := digits.foldr (fun d n => d + 60 * n) 0

/-- The value of a whole number as YAML writes it. -/
def integerValue (t : LooseText) : Except Fault Int :=
  let t := withoutUnderscores t
  let digits := withoutLeadingSign t
  let signed (n : Except ValueFault Int) : Except Fault Int :=
    match n with
    | .ok n => .ok (if isNegative t then -n else n)
    | .error fault => .error (.badValue fault)
  match digits with
  | [] => .error .emptyNumber
  | [.char '0'] => .ok 0
  | .char '0' :: .char 'b' :: rest => signed (readInteger 2 rest)
  | .char '0' :: .char 'x' :: rest => signed (readInteger 16 rest)
  | .char '0' :: _ => signed (readInteger 8 digits)
  | _ =>
    if digits.contains (.char ':') then
      signed do return sixtieths (← (colonParts digits).mapM (readInteger 10)).reverse
    else signed (readInteger 10 digits)

/-! ## Fractions -/

/-- A fraction in small letters: spaces around it and a sign may stand there. -/
def readSignedFraction (t : LooseText) : Except ValueFault Float :=
  let number := numeralText t
  let digits := withoutSign number
  let magnitude :=
    if digits = "inf".toList || digits = "infinity".toList then some infinity
    else if digits = "nan".toList then some (0.0 / 0.0)
    else readFraction? digits
  match magnitude with
  | some x => .ok (if number.head? = some '-' then -x else x)
  | none => .error (.notFraction t)

/-- The sum of parts, the first one worth `60 ^ power` and each further one sixty times as much.
Every power must be a number on its own. -/
def sumOfSixtieths (sum : Float) (power : Nat) : List Float → Except Fault Float
  | [] => .ok sum
  | part :: rest =>
    match nearestNatural? (Nat.pow 60 power) with
    | some worth => sumOfSixtieths (sum + part * worth) (power + 1) rest
    | none => .error .overflow

/-- The text of a fraction, in small letters and without underscores. -/
def bareFraction (t : LooseText) : LooseText := (withoutUnderscores t).lower

/-- The text is the word for the fraction that is no number. -/
def isNoNumberWord (t : LooseText) : Bool :=
  withoutLeadingSign (bareFraction t) == Text.loose ".nan".toList

/-- The value of a fraction as YAML writes it. -/
def fractionValue (t : LooseText) : Except Fault Float :=
  let word := bareFraction t
  let digits := withoutLeadingSign word
  let signed (x : Except Fault Float) : Except Fault Float :=
    x.map fun x => if isNegative word then -x else x
  let part (t : LooseText) : Except Fault Float := (readSignedFraction t).mapError .badValue
  if word.isEmpty then .error .emptyNumber
  else if digits == Text.loose ".inf".toList then signed (.ok infinity)
  else if isNoNumberWord t then .ok (0.0 / 0.0)
  else if digits.contains (.char ':') then
    signed do sumOfSixtieths 0.0 0 (← (colonParts digits).mapM part).reverse
  else signed (part digits)

end CandidateSearch.Yaml

import CandidateSearch.Yaml.Timestamp

/-!
# Tags of YAML nodes

A tag says what a node denotes.  A plain scalar without a tag gets one from its form: `Tag.ofPlain`
states the forms of version 1.1 of the language.
-/

namespace CandidateSearch.Yaml

/-- What a node denotes. -/
inductive Tag where
  | null
  | bool
  | int
  | float
  | binary
  | timestamp
  | orderedMap
  | pairs
  | set
  | text
  | sequence
  | mapping
  /-- The key of entries that are taken over from other mappings. -/
  | merge
  /-- The key of the value that stands for a whole mapping. -/
  | defaultValue
  | other (name : Text)
  deriving DecidableEq, Repr

/-! ## Tags by name -/

/-- What the names of the tags of the language begin with. -/
def standardPrefix : Text := "tag:yaml.org,2002:".toList

/-- The tags of the language by the rest of their names. -/
def standardTags : List (Text × Tag) :=
  [("null", Tag.null), ("bool", .bool), ("int", .int), ("float", .float), ("binary", .binary),
    ("timestamp", .timestamp), ("omap", .orderedMap), ("pairs", .pairs), ("set", .set),
    ("str", .text), ("seq", .sequence), ("map", .mapping), ("merge", .merge),
    ("value", .defaultValue)].map fun (name, tag) => (standardPrefix ++ name.toList, tag)

/-- The tag with a full name. -/
def Tag.ofName (name : Text) : Tag := (standardTags.lookup name).getD (.other name)

/-! ## Forms of plain scalars -/

/-- A digit or an underscore, which may stand between digits. -/
def isSpacedDigit (c : Char) : Bool := c.isDigit || c == '_'

/-- The text without one sign in front. -/
def withoutSign (t : Text) : Text :=
  match t with
  | '-' :: rest | '+' :: rest => rest
  | _ => t

/-- A digit, then digits and underscores. -/
def isSpacedNumber (t : Text) : Bool :=
  startsDigit t && t.all isSpacedDigit
where
  startsDigit (t : Text) : Bool := (t.head?.map Char.isDigit).getD false

/-- A number below sixty, in one or two digits. -/
def isSixtieth (t : Text) : Bool :=
  match t with
  | [d] => d.isDigit
  | [c, d] => '0' ≤ c && c ≤ '5' && d.isDigit
  | _ => false

/-- Numbers below sixty follow a first number, colons between them. -/
def isSexagesimal (isFirst : Text → Bool) (t : Text) : Bool :=
  match t.splitOn ':' with
  | first :: second :: rest => isFirst first && (second :: rest).all isSixtieth
  | _ => false

/-- The words for truth values. -/
def isFlagWord (t : Text) : Bool :=
  (["yes", "Yes", "YES", "no", "No", "NO", "true", "True", "TRUE", "false", "False", "FALSE",
    "on", "On", "ON", "off", "Off", "OFF"].map String.toList).contains t

/-- Nothing, or an exponent with a sign. -/
def isExponent (t : Text) : Bool :=
  match t with
  | [] => true
  | e :: sign :: digits =>
    (e == 'e' || e == 'E') && (sign == '-' || sign == '+') && !digits.isEmpty
      && digits.all Char.isDigit
  | _ => false

/-- The form of a fraction: digits around a point with an exponent, numbers to the base sixty, or a
word for infinity or for no number. -/
def isFractionForm (t : Text) : Bool :=
  let u := withoutSign t
  let whole := u.takeWhile (· != '.')
  match u.dropWhile (· != '.') with
  | '.' :: rest =>
    let places := rest.takeWhile isSpacedDigit
    let beyond := rest.dropWhile isSpacedDigit
    isSpacedNumber whole && isExponent beyond
      || isSexagesimal isSpacedNumber whole && beyond.isEmpty
      || whole.isEmpty && u == t && isSpacedNumber places && isExponent beyond
      || whole.isEmpty && (["inf", "Inf", "INF"].map String.toList).contains rest
      || whole.isEmpty && u == t && (["nan", "NaN", "NAN"].map String.toList).contains rest
  | _ => false

/-- A digit of a base up to sixteen, or an underscore. -/
def isDigitOf (base : Nat) (c : Char) : Bool :=
  c == '_' || c.isDigit && c.toNat - '0'.toNat < base
    || base == 16 && ('a' ≤ c && c ≤ 'f' || 'A' ≤ c && c ≤ 'F')

/-- A first digit that is not zero, then digits and underscores. -/
def isPlainNumber (t : Text) : Bool :=
  match t with
  | c :: rest => '1' ≤ c && c ≤ '9' && rest.all isSpacedDigit
  | [] => false

/-- The form of a whole number: decimal, to the base two, eight or sixteen, or to the base sixty. -/
def isIntegerForm (t : Text) : Bool :=
  match withoutSign t with
  | ['0'] => true
  | '0' :: 'b' :: digits => !digits.isEmpty && digits.all (isDigitOf 2)
  | '0' :: 'x' :: digits => !digits.isEmpty && digits.all (isDigitOf 16)
  | '0' :: digits => digits.all (isDigitOf 8)
  | u => isPlainNumber u || isSexagesimal isPlainNumber u

/-- The words for nothing. -/
def isNullWord (t : Text) : Bool :=
  (["~", "null", "Null", "NULL", ""].map String.toList).contains t

/-- The form of a point of time; a day alone has all its digits. -/
def isTimestampForm (t : Text) : Bool :=
  match WrittenTime.read? t with
  | some w => w.isFull || w.clock.isSome
  | none => false

/-- The text without one line feed at its end, which no form minds; a line feed alone is a text. -/
def withoutLineFeed (t : Text) : Text :=
  if 1 < t.length && t.getLast? = some '\n' then t.dropLast else t

/-- The tag that a plain scalar has by its form. -/
def Tag.ofPlain (t : Text) : Tag :=
  let t := withoutLineFeed t
  if isFlagWord t then .bool
  else if isFractionForm t then .float
  else if isIntegerForm t then .int
  else if t = ['<', '<'] then .merge
  else if isNullWord t then .null
  else if isTimestampForm t then .timestamp
  else if t = ['='] then .defaultValue
  else if t = ['!'] || t = ['&'] || t = ['*'] then .other (standardPrefix ++ "yaml".toList)
  else .text

end CandidateSearch.Yaml

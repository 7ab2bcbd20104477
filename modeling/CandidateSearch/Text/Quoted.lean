import CandidateSearch.Text.Loose
import CandidateSearch.Text.Numeral
import CandidateSearch.Text.Printable

/-!
# Quoted text in messages

A text is quoted in a message between single quotes, or between double quotes when it holds a single
quote and no double one.  The quote itself and the backslash are escaped, as is every character that
is not printable and every half of a character.
-/

namespace CandidateSearch

/-- The quote that a text is written between. -/
def quoteFor (t : Text) : Char :=
  if t.contains '\'' && !t.contains '"' then '"' else '\''

/-- A number as an escape: a letter that tells the width, and the digits. -/
def numberEscape (n : Nat) : Text :=
  if n < 0x100 then ['\\', 'x'] ++ hexDigits 2 n
  else if n < 0x10000 then ['\\', 'u'] ++ hexDigits 4 n
  else ['\\', 'U'] ++ hexDigits 8 n

/-- One character between quotes. -/
def quotedCharacter (quote c : Char) : Text :=
  if c = quote || c = '\\' then ['\\', c]
  else if c = '\n' then ['\\', 'n']
  else if c = '\r' then ['\\', 'r']
  else if c = '\t' then ['\\', 't']
  else if isPrintable c then [c]
  else numberEscape c.toNat

/-- The text between quotes. -/
def Text.quoted (t : Text) : Text :=
  let quote := quoteFor t
  quote :: t.flatMap (quotedCharacter quote) ++ [quote]

/-- One code point between quotes. -/
def quotedCodePoint (quote : Char) : CodePoint → Text
  | .char c => quotedCharacter quote c
  | .half n => numberEscape (CodePoint.half n).code

/-- The text between quotes. -/
def LooseText.quoted (t : LooseText) : Text :=
  let quote := quoteFor t.characters
  quote :: t.flatMap (quotedCodePoint quote) ++ [quote]

/-- A text is quoted alike whether or not halves of characters might stand in it. -/
theorem quoted_loose (t : Text) : LooseText.quoted t.loose = t.quoted := by
  simp only [LooseText.quoted, LooseText.characters_loose, Text.quoted]
  simp [Text.loose, List.flatMap_map, quotedCodePoint]

/-- Octets between quotes, behind the letter that marks them: printable characters of ASCII stand
for themselves. -/
def quotedOctets (octets : List UInt8) : Text :=
  let chars := octets.map fun b => Char.ofNat b.toNat
  let quote := quoteFor chars
  'b' :: quote :: (chars.flatMap fun c =>
    if c.toNat < 0x80 then quotedCharacter quote c else numberEscape c.toNat) ++ [quote]

/-- Texts between commas. -/
def commaSeparated (parts : List Text) : Text := List.intercalate [',', ' '] parts

/-- A list of texts in a message, each quoted. -/
def quotedList (ts : List Text) : Text := '[' :: commaSeparated (ts.map Text.quoted) ++ [']']

end CandidateSearch

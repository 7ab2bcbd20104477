import CandidateSearch.Text.Basic
import CandidateSearch.Text.CaseTable

/-!
# Letter case

`Text.lower` and `Text.upper` are the full mappings of Unicode: a character may become several, and
a capital sigma becomes a final sigma at the end of a word.  `sameLetter` compares two characters
one to one, without regard to case.
-/

namespace CandidateSearch

/-! ## Small letters -/

/-- The small form of a character, one to one. -/
def smallLetter (c : Char) : Char :=
  if c.toNat < 0x80 then c.toLower
  else if c.toNat = 0x130 then 'i'
  else Char.ofNat (ShiftRun.image smallLetterRuns c.toNat)

/-- The first character that is not passed over carries case. -/
def casedNext (t : Text) : Bool :=
  match t.find? (!caseTransparent.contains ·) with
  | some c => casedLetters.contains c
  | none => false

/-- The small form of one character between its neighbours: what stands `before` it, nearest first,
and what stands `after` it.  Capital sigma is final when a letter stands before it and none after
it, and the capital I with a dot keeps its dot. -/
def lowerBetween (before : Text) (c : Char) (after : Text) : Text :=
  if c.toNat = 0x3A3 then
    [if casedNext before && !casedNext after then Char.ofNat 0x3C2 else Char.ofNat 0x3C3]
  else if c.toNat = 0x130 then ['i', Char.ofNat 0x307]
  else [smallLetter c]

/-- The small form of what remains of a text, given what stands before it, nearest first. -/
def lowerAfter (before : Text) : Text → Text
  | [] => []
  | c :: rest => lowerBetween before c rest ++ lowerAfter (c :: before) rest

/-- The text in small letters. -/
def Text.lower (t : Text) : Text := lowerAfter [] t

/-! ## Capital letters -/

/-- The capital form of a character, which may be several characters. -/
def capitalLetters (c : Char) : Text :=
  if c.toNat < 0x80 then [c.toUpper]
  else match longCapitals.lookup c.toNat with
    | some codes => codes.map Char.ofNat
    | none => [Char.ofNat (ShiftRun.image capitalLetterRuns c.toNat)]

/-- The text in capital letters. -/
def Text.upper (t : Text) : Text := t.flatMap capitalLetters

/-! ## Comparison without regard to case -/

/-- The small letter that stands for every case and style of a character. -/
def plainLetter (c : Char) : Char :=
  let s := smallLetter c
  match letterVariants.lookup s.toNat with
  | some n => Char.ofNat n
  | none => s

/-- The two characters are the same letter up to case. -/
def sameLetter (a b : Char) : Bool := plainLetter a == plainLetter b

end CandidateSearch

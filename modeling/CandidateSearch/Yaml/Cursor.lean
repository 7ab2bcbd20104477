import CandidateSearch.Yaml.Fault

/-!
# Reading positions in a YAML text

A cursor is what remains of a text, with the line and the column reached.  Lines end at a line feed,
a next-line character, or one of the two Unicode separators; carriage returns have become line feeds
before.  A byte order mark takes no column.
-/

namespace CandidateSearch.Yaml

/-! ## Characters -/

/-- The character ends a line. -/
def isBreak (c : Char) : Bool :=
  c == '\n' || c.toNat == 0x85 || c.toNat == 0x2028 || c.toNat == 0x2029

/-- The character is a space or a tab. -/
def isSpaceOrTab (c : Char) : Bool := c == ' ' || c == '\t'

/-- The character separates tokens. -/
def isSeparator (c : Char) : Bool := isSpaceOrTab c || isBreak c

/-- The next character satisfies `p`, or nothing remains. -/
def endsOr (p : Char → Bool) (t : Text) : Bool := (t.head?.map p).getD true

/-- The next character satisfies `p`. -/
def startsWith (p : Char → Bool) (t : Text) : Bool := (t.head?.map p).getD false

/-- A letter, digit, hyphen or underscore of ASCII: what names are made of. -/
def isNameCharacter (c : Char) : Bool := c.isAlphanum || c == '-' || c == '_'

/-- The text begins with a line that separates documents. -/
def startsDocumentMark (mark : Char) (t : Text) : Bool :=
  t.take 3 == [mark, mark, mark] && endsOr isSeparator (t.drop 3)

/-- The text begins with a line that separates documents, of either kind. -/
def startsAnyDocumentMark (t : Text) : Bool :=
  startsDocumentMark '-' t || startsDocumentMark '.' t

/-- YAML allows the character. -/
def isAllowed (c : Char) : Bool :=
  let n := c.toNat
  n == 9 || n == 10 || n == 13 || (0x20 ≤ n && n ≤ 0x7E) || n == 0x85
    || (0xA0 ≤ n && n ≤ 0xD7FF) || (0xE000 ≤ n && n ≤ 0xFFFD) || 0x10000 ≤ n

/-! ## Cursors -/

/-- What remains of a text, and where it begins. -/
structure Cursor where
  rest : Text
  /-- How many characters remain. -/
  left : Nat := rest.length
  index : Nat := 0
  line : Nat := 0
  column : Nat := 0

namespace Cursor

/-- Past one character. -/
def step (c : Cursor) : Cursor :=
  match c.rest with
  | [] => c
  | ch :: rest =>
    let left := c.left - 1
    if isBreak ch then ⟨rest, left, c.index + 1, c.line + 1, 0⟩
    else ⟨rest, left, c.index + 1, c.line, if ch.toNat = 0xFEFF then c.column else c.column + 1⟩

/-- A step keeps count of the characters that remain. -/
theorem left_step {c : Cursor} (h : c.left = c.rest.length) :
    c.step.left = c.step.rest.length := by
  unfold step
  split
  · exact h
  · rename_i hc
    simp only [hc, List.length_cons] at h
    split <;> simp [h]

/-- Past so many characters. -/
def steps (c : Cursor) : Nat → Cursor
  | 0 => c
  | n + 1 => c.step.steps n

/-- The characters from here on that satisfy `p`. -/
def run (c : Cursor) (p : Char → Bool) : Text := c.rest.takeWhile p

/-- Past the characters that satisfy `p`. -/
def skip (c : Cursor) (p : Char → Bool) : Cursor := c.steps (c.run p).length

/-- The end of the line, as it counts in a text, if the cursor stands at one; and the cursor past
it.  The two Unicode separators count as themselves, all other ends of a line as line feeds. -/
def lineBreak? (c : Cursor) : Option (Char × Cursor) :=
  match c.rest with
  | ch :: _ =>
    if ch == '\n' || ch.toNat == 0x85 then some ('\n', c.step)
    else if isBreak ch then some (ch, c.step)
    else none
  | [] => none

/-- Past spaces and a comment, which must reach to the end of the line, and past the line. -/
def restOfLine (c : Cursor) : Except Fault Cursor :=
  let c := c.skip (· == ' ')
  let c := if startsWith (· == '#') c.rest then c.skip (!isBreak ·) else c
  match c.rest, c.lineBreak? with
  | [], _ => .ok c
  | _, some (_, next) => .ok next
  | _, none => .error .badToken

end Cursor

end CandidateSearch.Yaml

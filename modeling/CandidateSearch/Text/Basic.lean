/-!
# Text

A text is a list of characters, each a code point of Unicode, so that every position counts code
points.  Here are the characters that count as blank, trimming, and the plain searches that the
query language is built from.
-/

namespace CandidateSearch

/-- A sequence of characters. -/
abbrev Text := List Char

/-! ## Blanks -/

/-- White space of every kind: the controls that move the cursor, the four separators among the
controls, and the spaces and line ends of Unicode. -/
def isBlank (c : Char) : Bool :=
  let n := c.toNat
  (9 ≤ n && n ≤ 13) || (28 ≤ n && n ≤ 32) || n == 0x85 || n == 0xA0 || n == 0x1680
    || (0x2000 ≤ n && n ≤ 0x200A) || n == 0x2028 || n == 0x2029 || n == 0x202F || n == 0x205F
    || n == 0x3000

namespace Text

/-- The text without its leading blanks. -/
def trimStart (t : Text) : Text := t.dropWhile isBlank

/-- The text without its trailing blanks. -/
def trimEnd (t : Text) : Text := (t.reverse.dropWhile isBlank).reverse

/-- The text without blanks at either end. -/
def trim (t : Text) : Text := trimEnd (trimStart t)

/-! ## Searching -/

/-- Some stretch of the text equals `part`. -/
def occursIn (part : Text) : Text → Bool
  | [] => part.isEmpty
  | c :: rest => part.isPrefixOf (c :: rest) || occursIn part rest

/-- What follows the first occurrence of a character, if there is one. -/
def after? (c : Char) : Text → Option Text
  | [] => none
  | d :: rest => if d == c then some rest else after? c rest

/-- What follows the first occurrence of a character is shorter than the text. -/
theorem length_of_after? {c : Char} {t rest : Text} (h : after? c t = some rest) :
    rest.length < t.length := by
  induction t with
  | nil => simp [after?] at h
  | cons d r ih =>
    unfold after? at h
    split at h
    · cases h; simp
    · exact Nat.lt_succ_of_lt (ih h)

/-- How many characters stand before the first one that satisfies `p`, or all of them. -/
def lengthBefore (p : Char → Bool) (t : Text) : Nat := (t.takeWhile (!p ·)).length

end Text

end CandidateSearch

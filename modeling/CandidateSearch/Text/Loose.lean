import CandidateSearch.Text.Case

/-!
# Text with halves of characters

Notations of sixteen bits write a character beyond the first plane as two halves, one behind the
other.  An escape may name a half alone, which is no character.  A loose text may hold such halves:
`strict?` gives the text if it holds none, and `paired` puts together the halves that belong to each
other.  A text without halves stays as it is: `strict?_loose` and `joined_loose`.
-/

namespace CandidateSearch

/-- A character, or a half of one. -/
inductive CodePoint where
  | char (c : Char)
  /-- The half whose code lies so far behind `0xD800`.  First halves fill the lower half of the
  range, second halves the upper one. -/
  | half (n : Fin 0x800)
  deriving DecidableEq, Repr

namespace CodePoint

/-- The number of a code point. -/
def code : CodePoint → Nat
  | .char c => c.toNat
  | .half n => 0xD800 + n

/-- The code point with a number. -/
def ofNat? (n : Nat) : Option CodePoint :=
  if h : 0xD800 ≤ n ∧ n < 0xE000 then some (.half ⟨n - 0xD800, by omega⟩)
  else if n < 0x110000 then some (.char (Char.ofNat n))
  else none

/-- The code point with a number has that number. -/
theorem code_of_ofNat? {n : Nat} {p : CodePoint} (h : ofNat? n = some p) : p.code = n := by
  unfold ofNat? at h
  split at h
  · next half =>
    cases h
    simp only [code]
    omega
  · next half =>
    split at h
    · next bound =>
      cases h
      have valid : n.isValidChar := by
        simp only [Nat.isValidChar]
        omega
      rw [code, Char.ofNat, dif_pos valid]
      rfl
    · cases h

/-- The character, if it is a whole one. -/
def char? : CodePoint → Option Char
  | .char c => some c
  | .half _ => none

end CodePoint

/-- A text in which halves of characters may stand. -/
abbrev LooseText := List CodePoint

/-- The text as a loose text, without halves. -/
def Text.loose (t : Text) : LooseText := t.map .char

namespace LooseText

/-! ## Whole characters -/

/-- The characters of the text, without the halves. -/
def characters (t : LooseText) : Text := t.filterMap (·.char?)

@[simp] theorem characters_loose (t : Text) : characters t.loose = t := by
  induction t with
  | nil => rfl
  | cons c rest ih =>
    change c :: characters (Text.loose rest) = c :: rest
    rw [ih]

/-- The text, if it holds no halves. -/
def strict? (t : LooseText) : Option Text :=
  if t.all (·.char?.isSome) then some t.characters else none

/-- A text read loosely is that text read strictly. -/
theorem strict?_loose (t : Text) : strict? t.loose = some t := by
  have whole : t.loose.all (·.char?.isSome) = true := by simp [Text.loose, CodePoint.char?]
  rw [strict?, if_pos whole, characters_loose]

/-! ## Pairs of halves -/

/-- The character that a first and a second half stand for. -/
def wholeOf? (first second : Fin 0x800) : Option Char :=
  if first.val < 0x400 ∧ 0x400 ≤ second.val then
    some (Char.ofNat (0x10000 + 0x400 * first.val + (second.val - 0x400)))
  else none

/-- A code point in front of a text, put together with the half that the text begins with if they
belong to each other. -/
def pairWith (p : CodePoint) (t : LooseText) : LooseText :=
  match p, t with
  | .half a, .half b :: rest =>
    match wholeOf? a b with
    | some c => .char c :: rest
    | none => p :: t
  | _, _ => p :: t

/-- The text in which every first half with a second half behind it is put together with it. -/
def paired (t : LooseText) : LooseText := t.foldr pairWith []

@[simp] theorem paired_loose (t : Text) : paired t.loose = t.loose := by
  induction t with
  | nil => rfl
  | cons c rest ih =>
    simp only [Text.loose, paired, List.map_cons, List.foldr_cons] at ih ⊢
    rw [ih]
    rfl

/-- The character that stands for a half alone. -/
def replacement : Char := Char.ofNat 0xFFFD

/-- The text with its halves put together in pairs, and the replacement for those that stay. -/
def joined (t : LooseText) : Text := t.paired.map fun p => p.char?.getD replacement

/-- Joining changes nothing where there are no halves. -/
theorem joined_loose (t : Text) : joined t.loose = t := by
  rw [joined, paired_loose, Text.loose, List.map_map]
  exact List.map_id' t

/-! ## Small letters -/

/-- The small form of what remains of a text, given the characters since the last half, the last one
first. -/
def lowerFrom (run : Text) : LooseText → LooseText
  | [] => (Text.lower run.reverse).loose
  | .char c :: rest => lowerFrom (c :: run) rest
  | .half n :: rest => (Text.lower run.reverse).loose ++ .half n :: lowerFrom [] rest

/-- The text in small letters.  A half is no letter, so a word ends before it. -/
def lower (t : LooseText) : LooseText := lowerFrom [] t

end LooseText

end CandidateSearch

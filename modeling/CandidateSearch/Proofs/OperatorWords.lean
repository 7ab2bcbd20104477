import CandidateSearch.Proofs.Scopes
import CandidateSearch.Query.Operator

/-!
# Operator words and letter case

A word stands for an operator if its capitals are the name of one.  The mapping to capitals changes
many letters beyond ASCII, some of them to several letters, but none to letters of these names
alone, so a word stands for an operator exactly if the capitals of ASCII make it the name of one.

* `capitalLetters_beyond`: what a character beyond ASCII becomes in capitals;
* `ofWord?_eq_some_iff`: the words that stand for an operator.
-/

namespace CandidateSearch

/-! ## Letters of the operator names -/

/-- The letters of the names of the operators. -/
def operatorLetters : List Char := ['O', 'R', 'A', 'N', 'D', 'T']

/-- The name of an operator consists of these letters. -/
theorem mem_operatorLetters (op : Operator) : ∀ c ∈ op.name, c ∈ operatorLetters := by
  cases op <;> exact Text.forall_mem_of_all (by decide)

/-- These letters are letters of ASCII, and neither I nor S. -/
theorem toNat_of_mem_operatorLetters {c : Char} (h : c ∈ operatorLetters) :
    0 < c.toNat ∧ c.toNat < 128 ∧ c.toNat ≠ 73 ∧ c.toNat ≠ 83 := by
  have hall : ∀ c ∈ operatorLetters,
      0 < c.toNat ∧ c.toNat < 128 ∧ c.toNat ≠ 73 ∧ c.toNat ≠ 83 :=
    Text.forall_mem_of_all (by decide)
  exact hall c h

/-- An operator is found by its name alone. -/
theorem ofName?_eq_some_iff {t : Text} {op : Operator} :
    Operator.ofName? t = some op ↔ t = op.name := by
  constructor
  · intro h
    unfold Operator.ofName? at h
    split_ifs at h with h₁ h₂ h₃
    · rw [h₁, Option.some.inj h]
    · rw [h₂, Option.some.inj h]
    · rw [h₃, Option.some.inj h]
  · rintro rfl
    exact Operator.ofName?_name op

/-- A text with any other character is the name of no operator. -/
theorem ofName?_eq_none_of_mem {t : Text} {c : Char} (hc : c ∈ t) (h : c ∉ operatorLetters) :
    Operator.ofName? t = none := by
  rw [Option.eq_none_iff_forall_ne_some]
  intro op hop
  rw [ofName?_eq_some_iff.mp hop] at hc
  exact h (mem_operatorLetters op c hc)

/-! ## Capitals -/

/-- A character beyond ASCII is no small letter of ASCII. -/
theorem toUpper_of_beyond {c : Char} (h : 128 ≤ c.toNat) : c.toUpper = c := by
  refine dif_neg ?_
  rintro ⟨-, hlast⟩
  have hlast : c.toNat ≤ 122 := UInt32.le_iff_toNat_le.mp hlast
  omega

/-- Beyond ASCII, only the small i without a dot and the long s have capitals in ASCII. -/
theorem image_capitalLetterRuns {n : Nat} (h : 128 ≤ n) :
    128 ≤ ShiftRun.image capitalLetterRuns n ∨ ShiftRun.image capitalLetterRuns n = 73 ∨
      ShiftRun.image capitalLetterRuns n = 83 := by
  have himage := image_beyond capitalLetterRuns [73, 83] (by decide +kernel) h
  simpa only [List.mem_cons, List.not_mem_nil, or_false] using himage

/-- **What a character beyond ASCII becomes in capitals** is not made of operator letters alone. -/
theorem capitalLetters_beyond {c : Char} (h : 128 ≤ c.toNat) :
    ∃ d ∈ capitalLetters c, d ∉ operatorLetters := by
  have hlong : ∀ entry ∈ longCapitals, ∃ code ∈ entry.2, Char.ofNat code ∉ operatorLetters := by
    decide +kernel
  rw [capitalLetters, if_neg (by omega)]
  cases hlookup : longCapitals.lookup c.toNat with
  | some codes =>
    obtain ⟨front, rest, hentry, -⟩ := List.lookup_eq_some_iff.mp hlookup
    obtain ⟨code, hcode, hletter⟩ := hlong (c.toNat, codes) (by rw [hentry]; simp)
    exact ⟨Char.ofNat code, List.mem_map_of_mem hcode, hletter⟩
  | none =>
    refine ⟨_, List.mem_singleton_self _, fun hletter => ?_⟩
    have hcode := toNat_of_mem_operatorLetters hletter
    have himage := image_capitalLetterRuns h
    have hchar := toNat_ofNat_cases (ShiftRun.image capitalLetterRuns c.toNat)
    omega

/-- A text of ASCII becomes capital letter by letter. -/
theorem upper_ascii {w : Text} (h : ∀ c ∈ w, c.toNat < 128) : w.upper = w.map Char.toUpper := by
  have hletters : ∀ c ∈ w, capitalLetters c = [c.toUpper] := by
    intro c hc
    rw [capitalLetters, if_pos (h c hc)]
  rw [Text.upper, List.flatMap_congr hletters, List.map_eq_flatMap]

/-! ## Words -/

/-- A word stands for the operator that its capitals of ASCII name. -/
theorem ofWord?_eq_ofName? (w : Text) :
    Operator.ofWord? w = Operator.ofName? (w.map Char.toUpper) := by
  rw [Operator.ofWord?]
  by_cases hascii : ∀ c ∈ w, c.toNat < 128
  · rw [upper_ascii hascii]
  · -- a character beyond ASCII leaves a letter that no operator has, on both sides
    push Not at hascii
    obtain ⟨c, hc, hbeyond⟩ := hascii
    obtain ⟨d, hd, hletter⟩ := capitalLetters_beyond hbeyond
    have hupper : d ∈ w.upper := List.mem_flatMap.mpr ⟨c, hc, hd⟩
    have hself : c ∈ w.map Char.toUpper := by
      rw [← toUpper_of_beyond hbeyond]
      exact List.mem_map_of_mem hc
    have hother : c ∉ operatorLetters := fun hmem => by
      have hcode := toNat_of_mem_operatorLetters hmem
      omega
    rw [ofName?_eq_none_of_mem hupper hletter, ofName?_eq_none_of_mem hself hother]

/-- **The words that stand for an operator** are its name in any mix of capitals and small letters
of ASCII. -/
theorem ofWord?_eq_some_iff {w : Text} {op : Operator} :
    Operator.ofWord? w = some op ↔ w.map Char.toUpper = op.name := by
  rw [ofWord?_eq_ofName?, ofName?_eq_some_iff]

end CandidateSearch

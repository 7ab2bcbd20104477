import CandidateSearch.Proofs.Text
import CandidateSearch.Query.TimeScope

/-!
# Time scopes and letter case

Whether a text mentions a time scope is decided on its small letters.  The letters of the two scope
names have no small form but their own and no capital form beyond ASCII, so the full mapping to small
letters finds the same names as the mapping of the 26 capitals does, and neither a second mapping nor
trimming changes what is found.

* `occursIn_lower`: a name is found in the small letters of a text as in its ASCII small letters;
* `resolve_scalar`: a scope can be resolved before or after its text has been trimmed and mapped.
-/

namespace CandidateSearch

/-! ## Letters of the scope names -/

/-- A small letter of ASCII other than i and k, the two that capitals beyond ASCII are mapped to. -/
def IsScopeLetter (c : Char) : Prop :=
  97 ≤ c.toNat ∧ c.toNat ≤ 122 ∧ c.toNat ≠ 105 ∧ c.toNat ≠ 107

instance (c : Char) : Decidable (IsScopeLetter c) := inferInstanceAs (Decidable (_ ∧ _))

/-- A character that is no capital of ASCII is its own small letter. -/
theorem toLower_of_not_capital {c : Char} (h : c.toNat < 65 ∨ 90 < c.toNat) : c.toLower = c := by
  refine dif_neg ?_
  rintro ⟨h₁, h₂⟩
  have h₁' : 65 ≤ c.toNat := UInt32.le_iff_toNat_le.mp h₁
  have h₂' : c.toNat ≤ 90 := UInt32.le_iff_toNat_le.mp h₂
  omega

/-- The small letter of a capital of ASCII. -/
theorem toNat_toLower_of_capital {c : Char} (h₁ : 65 ≤ c.toNat) (h₂ : c.toNat ≤ 90) :
    c.toLower.toNat = c.toNat + 32 := by
  have hval : c.val ≥ 'A'.val ∧ c.val ≤ 'Z'.val :=
    ⟨UInt32.le_iff_toNat_le.mpr h₁, UInt32.le_iff_toNat_le.mpr h₂⟩
  have hlower : c.toLower.val = c.val + 32 := congrArg Char.val (dif_pos hval)
  show c.toLower.val.toNat = c.val.toNat + 32
  rw [hlower, UInt32.toNat_add]
  have hlt : c.val.toNat ≤ 90 := h₂
  have h32 : (32 : UInt32).toNat = 32 := rfl
  rw [h32, Nat.mod_eq_of_lt (by omega)]

/-- Small letters of ASCII are their own small letters. -/
theorem toLower_toLower (c : Char) : c.toLower.toLower = c.toLower := by
  by_cases h : 65 ≤ c.toNat ∧ c.toNat ≤ 90
  · have hsmall := toNat_toLower_of_capital h.1 h.2
    exact toLower_of_not_capital (by omega)
  · have hself : c.toLower = c := toLower_of_not_capital (by omega)
    rw [hself, hself]

/-- Runs send a code point beyond ASCII to one beyond ASCII, but for those of a single code point that
send it to one of a few others. -/
theorem image_beyond (runs : List ShiftRun) (few : List Nat)
    (hruns : ∀ run ∈ runs, 128 ≤ run.first + run.shift ∨
      run.first = run.last ∧ (run.first + run.shift).toNat ∈ few) {n : Nat} (h : 128 ≤ n) :
    128 ≤ ShiftRun.image runs n ∨ ShiftRun.image runs n ∈ few := by
  rw [ShiftRun.image]
  cases hfind : runs.find? (·.covers n) with
  | none => exact Or.inl h
  | some run =>
    have hcovers := List.find?_some hfind
    simp only [ShiftRun.covers, Bool.and_eq_true, decide_eq_true_eq] at hcovers
    obtain ⟨⟨hfirst, hlast⟩, -⟩ := hcovers
    show 128 ≤ (n + run.shift).toNat ∨ (n + run.shift).toNat ∈ few
    rcases hruns run (List.mem_of_find?_eq_some hfind) with hbeyond | ⟨hsingle, hfew⟩
    · left
      omega
    · right
      obtain rfl : run.first = n := by omega
      exact hfew

/-- Beyond ASCII, only the capital I with a dot and the Kelvin sign are mapped to letters of
ASCII. -/
theorem image_smallLetterRuns {n : Nat} (h : 128 ≤ n) :
    128 ≤ ShiftRun.image smallLetterRuns n ∨ ShiftRun.image smallLetterRuns n = 105 ∨
      ShiftRun.image smallLetterRuns n = 107 := by
  have himage := image_beyond smallLetterRuns [105, 107] (by decide +kernel) h
  simpa only [List.mem_cons, List.not_mem_nil, or_false] using himage

/-- A character with a code beyond ASCII, or the null character in the place of an invalid code. -/
theorem toNat_ofNat_cases (n : Nat) : (Char.ofNat n).toNat = n ∨ (Char.ofNat n).toNat = 0 := by
  by_cases h : n.isValidChar
  · exact Or.inl (congrArg Char.toNat (dif_pos h))
  · exact Or.inr (congrArg Char.toNat (dif_neg h))

/-- Beyond ASCII, no small letter is a letter of the scope names or a capital of ASCII. -/
theorem smallLetter_beyond {c : Char} (h : 128 ≤ c.toNat) :
    ¬ IsScopeLetter (smallLetter c) ∧ (smallLetter c).toLower = smallLetter c := by
  have hcases : (smallLetter c).toNat = 0 ∨ (smallLetter c).toNat = 105 ∨
      (smallLetter c).toNat = 107 ∨ 128 ≤ (smallLetter c).toNat := by
    rw [smallLetter, if_neg (by omega)]
    split_ifs with hdot
    · exact Or.inr (Or.inl rfl)
    · have himage := image_smallLetterRuns h
      have hchar := toNat_ofNat_cases (ShiftRun.image smallLetterRuns c.toNat)
      omega
  refine ⟨?_, toLower_of_not_capital (by omega)⟩
  unfold IsScopeLetter
  omega

/-- Beyond ASCII, no character is a letter of the scope names. -/
theorem not_isScopeLetter_toLower {c : Char} (h : 128 ≤ c.toNat) : ¬ IsScopeLetter c.toLower := by
  rw [toLower_of_not_capital (by omega)]
  unfold IsScopeLetter
  omega

/-- What a character beyond ASCII becomes in small letters. -/
theorem lowerBetween_beyond {c : Char} (before after : Text) (h : 128 ≤ c.toNat) :
    ∀ d ∈ lowerBetween before c after, ¬ IsScopeLetter d ∧ d.toLower = d := by
  unfold lowerBetween
  -- a capital sigma, final or not; the capital I with a dot; any other character
  split_ifs with hsigma hfinal hdot
  · exact Text.forall_mem_of_all (by decide)
  · exact Text.forall_mem_of_all (by decide)
  · exact Text.forall_mem_of_all (by decide)
  · intro d hd
    rw [List.mem_singleton.mp hd]
    exact smallLetter_beyond h

/-- Every character becomes something. -/
theorem lowerBetween_ne_nil (before : Text) (c : Char) (after : Text) :
    lowerBetween before c after ≠ [] := by
  unfold lowerBetween
  split_ifs <;> exact List.cons_ne_nil _ _

/-- What a character of ASCII becomes in small letters. -/
theorem lowerBetween_ascii {c : Char} (before after : Text) (h : c.toNat < 128) :
    lowerBetween before c after = [c.toLower] := by
  rw [lowerBetween, if_neg (by omega), if_neg (by omega), smallLetter, if_pos h]

/-- A text in small letters holds no capital of ASCII. -/
theorem toLower_of_mem_lowerAfter {before t : Text} {d : Char} (h : d ∈ lowerAfter before t) :
    d.toLower = d := by
  induction t generalizing before with
  | nil => cases h
  | cons c t ih =>
    rw [lowerAfter, List.mem_append] at h
    rcases h with h | h
    · by_cases hc : c.toNat < 128
      · rw [lowerBetween_ascii _ _ hc, List.mem_singleton] at h
        rw [h, toLower_toLower]
      · exact (lowerBetween_beyond _ _ (by omega) d h).2
    · exact ih h

/-! ## Finding a name -/

section Names

variable {part : Text} (hpart : ∀ p ∈ part, IsScopeLetter p)

include hpart

/-- A name does not begin with another character. -/
theorem isPrefixOf_cons_of_not {d : Char} (rest : Text) (hne : part ≠ [])
    (hd : ¬ IsScopeLetter d) : part.isPrefixOf (d :: rest) = false := by
  obtain ⟨p, ps, rfl⟩ := List.exists_cons_of_ne_nil hne
  have hpd : (p == d) = false := by
    rw [beq_eq_false_iff_ne]
    rintro rfl
    exact hd (hpart p List.mem_cons_self)
  rw [List.isPrefixOf, hpd, Bool.false_and]

/-- A name is not found among other characters. -/
theorem occursIn_append_of_not {w : Text} (rest : Text) (hne : part ≠ [])
    (hw : ∀ d ∈ w, ¬ IsScopeLetter d) :
    Text.occursIn part (w ++ rest) = Text.occursIn part rest := by
  induction w with
  | nil => rfl
  | cons d w ih =>
    rw [List.cons_append, Text.occursIn,
      isPrefixOf_cons_of_not hpart _ hne (hw d List.mem_cons_self), Bool.false_or]
    exact ih fun e he => hw e (List.mem_cons_of_mem d he)

/-- A name that begins a text does not need the other characters behind it. -/
theorem isPrefixOf_append_of_not {w : Text} (rest : Text) (hw : ∀ d ∈ w, ¬ IsScopeLetter d) :
    part.isPrefixOf (rest ++ w) = part.isPrefixOf rest := by
  induction rest generalizing part with
  | nil =>
    cases part with
    | nil => rfl
    | cons p ps =>
      cases w with
      | nil => rfl
      | cons d w =>
        exact isPrefixOf_cons_of_not hpart w (List.cons_ne_nil p ps) (hw d List.mem_cons_self)
  | cons r rest ih =>
    cases part with
    | nil => rfl
    | cons p ps =>
      rw [List.cons_append, List.isPrefixOf, List.isPrefixOf,
        ih fun q hq => hpart q (List.mem_cons_of_mem p hq)]

/-- A name is not found among other characters at the end. -/
theorem occursIn_append_of_not_right {w : Text} (rest : Text) (hne : part ≠ [])
    (hw : ∀ d ∈ w, ¬ IsScopeLetter d) :
    Text.occursIn part (rest ++ w) = Text.occursIn part rest := by
  induction rest with
  | nil =>
    have h := occursIn_append_of_not hpart [] hne hw
    rwa [List.append_nil] at h
  | cons r rest ih =>
    rw [List.cons_append, Text.occursIn, Text.occursIn, ih, ← List.cons_append,
      isPrefixOf_append_of_not hpart _ hw]

/-- A name begins the small letters of a text as it begins its ASCII small letters. -/
theorem isPrefixOf_lowerAfter (before t : Text) :
    part.isPrefixOf (lowerAfter before t) = part.isPrefixOf (t.map Char.toLower) := by
  induction t generalizing before part with
  | nil => rfl
  | cons c t ih =>
    rw [lowerAfter, List.map_cons]
    cases part with
    | nil => rfl
    | cons p ps =>
      by_cases hc : c.toNat < 128
      · -- a character of ASCII becomes the same letter on both sides
        rw [lowerBetween_ascii _ _ hc, List.singleton_append, List.isPrefixOf, List.isPrefixOf,
          ih fun q hq => hpart q (List.mem_cons_of_mem p hq)]
      · -- what any other character becomes cannot begin a name
        have hbeyond : 128 ≤ c.toNat := by omega
        obtain ⟨d, w, hblock⟩ := List.exists_cons_of_ne_nil (lowerBetween_ne_nil before c t)
        have hd : ¬ IsScopeLetter d :=
          (lowerBetween_beyond before t hbeyond d (by rw [hblock]; exact List.mem_cons_self)).1
        rw [hblock, List.cons_append, isPrefixOf_cons_of_not hpart _ (List.cons_ne_nil p ps) hd,
          isPrefixOf_cons_of_not hpart _ (List.cons_ne_nil p ps)
            (not_isScopeLetter_toLower hbeyond)]

/-- **A name is found in the small letters of a text as in its ASCII small letters.** -/
theorem occursIn_lowerAfter (hne : part ≠ []) (before t : Text) :
    Text.occursIn part (lowerAfter before t) = Text.occursIn part (t.map Char.toLower) := by
  induction t generalizing before with
  | nil => rfl
  | cons c t ih =>
    by_cases hc : c.toNat < 128
    · have hprefix := isPrefixOf_lowerAfter hpart before (c :: t)
      rw [lowerAfter, lowerBetween_ascii _ _ hc, List.singleton_append, List.map_cons] at hprefix ⊢
      rw [Text.occursIn, Text.occursIn, hprefix, ih]
    · have hbeyond : 128 ≤ c.toNat := by omega
      have hblock := fun d hd => (lowerBetween_beyond before t hbeyond d hd).1
      rw [lowerAfter, List.map_cons, occursIn_append_of_not hpart _ hne hblock, ih, Text.occursIn,
        isPrefixOf_cons_of_not hpart _ hne (not_isScopeLetter_toLower hbeyond), Bool.false_or]

end Names

/-! ## Resolving a scope -/

/-- The name of a scope is made of letters of the scope names. -/
theorem isScopeLetter_of_mem_name {scope : TimeScope} (h : scope ≠ .both) :
    (∀ p ∈ scope.name, IsScopeLetter p) ∧ scope.name ≠ [] := by
  cases scope with
  | current => exact ⟨Text.forall_mem_of_all (by decide), by decide⟩
  | past => exact ⟨Text.forall_mem_of_all (by decide), by decide⟩
  | both => exact absurd rfl h

/-- **A name is found in the small letters of a text as in its ASCII small letters.** -/
theorem occursIn_lower {scope : TimeScope} (h : scope ≠ .both) (t : Text) :
    Text.occursIn scope.name t.lower = Text.occursIn scope.name (t.map Char.toLower) :=
  occursIn_lowerAfter (isScopeLetter_of_mem_name h).1 (isScopeLetter_of_mem_name h).2 [] t

/-- Mapping to small letters twice does not change which names are found. -/
theorem occursIn_lower_lower {scope : TimeScope} (h : scope ≠ .both) (t : Text) :
    Text.occursIn scope.name t.lower.lower = Text.occursIn scope.name t.lower := by
  have hself : t.lower.map Char.toLower = t.lower := by
    rw [← List.map_id t.lower, List.map_map]
    exact List.map_congr_left fun d hd => toLower_of_mem_lowerAfter hd
  rw [occursIn_lower h, hself]

/-- Trimming does not change which names are found. -/
theorem occursIn_lower_trim {scope : TimeScope} (h : scope ≠ .both) (t : Text) :
    Text.occursIn scope.name t.trim.lower = Text.occursIn scope.name t.lower := by
  obtain ⟨hletters, hne⟩ := isScopeLetter_of_mem_name h
  have hblank : ∀ c, isBlank c = true → ¬ IsScopeLetter c.toLower := by
    intro c hc
    simp only [isBlank, Bool.or_eq_true, Bool.and_eq_true, decide_eq_true_eq, beq_iff_eq] at hc
    rw [toLower_of_not_capital (by omega)]
    unfold IsScopeLetter
    omega
  have hblanks : ∀ w : Text, (∀ c ∈ w, isBlank c = true) →
      ∀ d ∈ w.map Char.toLower, ¬ IsScopeLetter d := by
    intro w hw d hd
    obtain ⟨c, hc, rfl⟩ := List.mem_map.mp hd
    exact hblank c (hw c hc)
  -- the text is its trimmed form between two stretches of blanks
  have hfront : t = t.takeWhile isBlank ++ t.trimStart := List.takeWhile_append_dropWhile.symm
  have hback : t.trimStart = t.trim ++ t.trimStart.rtakeWhile isBlank :=
    List.rdropWhile_append_rtakeWhile.symm
  rw [occursIn_lower h, occursIn_lower h]
  conv_rhs => rw [hfront, hback]
  rw [List.map_append, List.map_append,
    occursIn_append_of_not hletters _ hne
      (hblanks _ fun c hc => List.mem_takeWhile_imp hc),
    occursIn_append_of_not_right hletters _ hne
      (hblanks _ fun c hc => List.mem_rtakeWhile_imp hc)]

/-- **A scope can be resolved before or after its text has been trimmed and mapped to small
letters.** -/
theorem resolve_scalar (t : Text) :
    TimeScope.resolve (some t.trim.lower) = TimeScope.resolve (some t) := by
  have hcurrent : TimeScope.current ≠ .both := by decide
  have hpast : TimeScope.past ≠ .both := by decide
  simp only [TimeScope.resolve, occursIn_lower_lower hcurrent, occursIn_lower_lower hpast,
    occursIn_lower_trim hcurrent, occursIn_lower_trim hpast]

end CandidateSearch

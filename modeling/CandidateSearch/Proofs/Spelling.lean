import CandidateSearch.Proofs.Markers
import CandidateSearch.Proofs.Scopes
import CandidateSearch.Query.Validation

/-!
# Names of fields in any mix of capitals

The name of a field may be written in capitals and small letters at will.  The search for markers
compares characters one by one, validation asks whether the small letters of a whole label hold the
small letters of a name; within ASCII both come to the same, since there every small letter is
decided by its own character.

* `Spells`: a text that agrees with a label up to the capitals of ASCII;
* `isSuffix_lowerAfter`: the small letters of a text end in those of its end;
* `Spells.mentionsField`: a text that ends in the name of a field mentions it;
* `spells_of_mem_labelMarkers`: a marker that is read spells the name of its field.
-/

namespace CandidateSearch

/-! ## Letters of ASCII -/

/-- A character is blank exactly if its small letter is. -/
theorem isBlank_toLower (c : Char) : isBlank c.toLower = isBlank c := by
  by_cases h : 65 ≤ c.toNat ∧ c.toNat ≤ 90
  · have hsmall := toNat_toLower_of_capital h.1 h.2
    rw [Bool.eq_iff_iff]
    simp only [isBlank, Bool.or_eq_true, Bool.and_eq_true, decide_eq_true_eq, beq_iff_eq]
    omega
  · rw [toLower_of_not_capital (by omega)]

/-- A character is one of ASCII exactly if its small letter is. -/
theorem toNat_toLower_lt_iff {c : Char} : c.toLower.toNat < 128 ↔ c.toNat < 128 := by
  by_cases h : 65 ≤ c.toNat ∧ c.toNat ≤ 90
  · have hsmall := toNat_toLower_of_capital h.1 h.2
    omega
  · rw [toLower_of_not_capital (by omega)]

/-- A text of ASCII becomes small letter by letter. -/
theorem lowerAfter_ascii (before : Text) {l : Text} (h : ∀ c ∈ l, c.toNat < 128) :
    lowerAfter before l = l.map Char.toLower := by
  induction l generalizing before with
  | nil => rfl
  | cons c l ih =>
    rw [lowerAfter, lowerBetween_ascii _ _ (h c List.mem_cons_self), List.map_cons,
      ih _ fun d hd => h d (List.mem_cons_of_mem c hd), List.singleton_append]

/-- The small letters of a text end in those of its end.  They need not begin in those of its front,
where a final sigma is decided by what follows it. -/
theorem isSuffix_lowerAfter (before u : Text) {l : Text} (h : ∀ c ∈ l, c.toNat < 128) :
    l.map Char.toLower <:+ lowerAfter before (u ++ l) := by
  induction u generalizing before with
  | nil => exact ⟨[], (lowerAfter_ascii before h).symm⟩
  | cons c u ih =>
    rw [List.cons_append, lowerAfter]
    exact (ih (c :: before)).trans (List.suffix_append _ _)

/-- Letters of ASCII are compared by their small letters. -/
theorem plainLetter_ascii {c : Char} (h : c.toNat < 128) : plainLetter c = c.toLower := by
  have hsmall : smallLetter c = c.toLower := by rw [smallLetter, if_pos h]
  have hvariants : ∀ v ∈ letterVariants, 128 ≤ v.1 := by decide
  have hnone : letterVariants.lookup c.toLower.toNat = none := by
    have hlower := toNat_toLower_lt_iff.mpr h
    rw [List.lookup_eq_none_iff]
    intro v hv
    have hle := hvariants v hv
    rw [bne_iff_ne]
    omega
  -- only letters beyond ASCII have variants, so the small letter stands for itself
  simp only [plainLetter, hsmall, hnone]

/-! ## Names of fields in any mix of capitals -/

/-- A text that agrees with a label up to the capitals of ASCII. -/
def Spells (l label : Text) : Prop := l.map Char.toLower = label.map Char.toLower

instance (l label : Text) : Decidable (Spells l label) :=
  inferInstanceAs (Decidable (l.map Char.toLower = label.map Char.toLower))

/-- The small letters of a label are characters of ASCII, and no colons. -/
theorem label_letters (f : Field) : ∀ c ∈ f.label.map Char.toLower, c.toNat < 128 ∧ c ≠ ':' := by
  have hall : ∀ f ∈ Field.all,
      (f.label.map Char.toLower).all (fun c => decide (c.toNat < 128 ∧ c ≠ ':')) = true := by
    decide +kernel
  exact Text.forall_mem_of_all (hall f f.mem_all)

/-- The small letters of a label have no blanks at their ends. -/
theorem label_ends (f : Field) :
    (∀ c ∈ (f.label.map Char.toLower).head?, isBlank c = false) ∧
      (∀ c ∈ (f.label.map Char.toLower).getLast?, isBlank c = false) := by
  have hall : ∀ f ∈ Field.all,
      (f.label.map Char.toLower).head?.toList.all (fun c => decide (isBlank c = false)) = true ∧
        (f.label.map Char.toLower).getLast?.toList.all (fun c => decide (isBlank c = false))
          = true := by
    decide +kernel
  obtain ⟨hhead, hlast⟩ := hall f f.mem_all
  constructor
  · intro c hc
    exact Text.forall_mem_of_all hhead c (Option.mem_toList.mpr hc)
  · intro c hc
    exact Text.forall_mem_of_all hlast c (Option.mem_toList.mpr hc)

/-- The label of a field is written in ASCII. -/
theorem label_ascii (f : Field) : ∀ c ∈ f.label, c.toNat < 128 := fun _ hc =>
  toNat_toLower_lt_iff.mp (label_letters f _ (List.mem_map_of_mem hc)).1

/-- The small letters of a label. -/
theorem Field.lower_label (f : Field) : f.label.lower = f.label.map Char.toLower :=
  lowerAfter_ascii [] (label_ascii f)

section Spelling

variable {l : Text} {f : Field} (hl : Spells l f.label)

include hl

/-- A spelled label holds characters of ASCII, and no colon. -/
theorem Spells.ascii {c : Char} (hc : c ∈ l) : c.toNat < 128 ∧ c ≠ ':' := by
  have hmem : c.toLower ∈ f.label.map Char.toLower := by
    rw [← hl]
    exact List.mem_map_of_mem hc
  obtain ⟨hascii, hcolon⟩ := label_letters f _ hmem
  refine ⟨toNat_toLower_lt_iff.mp hascii, ?_⟩
  rintro rfl
  exact hcolon rfl

/-- A spelled label is not empty. -/
theorem Spells.ne_nil : l ≠ [] := by
  rintro rfl
  exact (isLabel_label f).1 (List.map_eq_nil_iff.mp hl.symm)

/-- Trimming keeps a spelled label at the end of a text. -/
theorem Spells.trim_append (u : Text) : Text.trim (u ++ l) = Text.trimStart u ++ l := by
  obtain ⟨hhead, hlast⟩ := label_ends f
  rw [← hl] at hhead hlast
  apply Text.trim_append u hl.ne_nil
  · intro c hc
    rw [← isBlank_toLower]
    apply hhead
    rw [List.head?_map]
    exact Option.mem_map_of_mem _ hc
  · intro c hc
    rw [← isBlank_toLower]
    apply hlast
    rw [List.getLast?_map]
    exact Option.mem_map_of_mem _ hc

/-- A spelled label has no blanks at its ends. -/
theorem Spells.trim : Text.trim l = l := by
  have h := hl.trim_append []
  rwa [List.nil_append] at h

/-- **A text that ends in the name of a field mentions it.** -/
theorem Spells.mentionsField (u : Text) : mentionsField (u ++ l) = true := by
  have hlabel : f.label.lower = l.map Char.toLower := f.lower_label.trans hl.symm
  -- the name stands at the end of the small letters, whatever becomes of the front
  obtain ⟨w, hw⟩ := isSuffix_lowerAfter [] u fun c hc => (hl.ascii hc).1
  unfold CandidateSearch.mentionsField
  rw [List.any_eq_true]
  refine ⟨f, f.mem_all, ?_⟩
  show Text.occursIn f.label.lower (lowerAfter [] (u ++ l)) = true
  rw [hlabel, ← hw]
  exact Text.occursIn_append_self w _

end Spelling

/-- Within ASCII, agreeing with a label letter by letter is spelling it. -/
theorem map_plainLetter_eq_iff {f : Field} {l : Text} (h : ∀ c ∈ l, c.toNat < 128) :
    l.map plainLetter = f.label.map plainLetter ↔ Spells l f.label := by
  have hletters : ∀ c ∈ l, plainLetter c = c.toLower := fun c hc => plainLetter_ascii (h c hc)
  have hlabel : ∀ c ∈ f.label, plainLetter c = c.toLower := fun c hc =>
    plainLetter_ascii (label_ascii f c hc)
  rw [List.map_congr_left hletters, List.map_congr_left hlabel, Spells]

/-- A spelled label holds no plus sign. -/
theorem Spells.not_mem_plus {f : Field} {l : Text} (hl : Spells l f.label) : '+' ∉ l :=
  (isLabel_label f).not_mem ((map_plainLetter_eq_iff fun c hc => (hl.ascii hc).1).mpr hl)
    (by decide)

/-- Within ASCII, a text names a field exactly if it spells its name, but for blanks around it. -/
theorem named?_eq_some_iff {f : Field} {t : Text} (h : ∀ c ∈ t.trim, c.toNat < 128) :
    Field.named? t = some f ↔ Spells t.trim f.label := by
  have hnames : ∀ g : Field, (g.label.lower == t.trim.lower) = true ↔ Spells t.trim g.label := by
    intro g
    rw [beq_iff_eq, g.lower_label, Text.lower, lowerAfter_ascii [] h, Spells, eq_comm]
  have hfound : ∀ g : Field, Field.named? t = some g → Spells t.trim g.label := by
    intro g hg
    rw [Field.named?] at hg
    have hname := List.find?_some hg
    exact (hnames g).mp hname
  constructor
  · exact hfound f
  · intro hspells
    -- some field is found, and only one has this name
    cases hnamed : Field.named? t with
    | none =>
      have hnone := List.find?_eq_none.mp hnamed f f.mem_all
      exact absurd ((hnames f).mpr hspells) hnone
    | some g =>
      rw [eq_of_map_plainLetter_label (((map_plainLetter_eq_iff h).mpr (hfound g hnamed)).symm.trans
        ((map_plainLetter_eq_iff h).mpr hspells))]

/-! ## Markers that are read -/

/-- The label of a marker as the query spells it. -/
def Marker.spelling (m : Marker) (query label : Text) : Text :=
  (query.drop (m.start + 1)).take label.length

/-- **A marker that is read** stands in the query, and spells the label of its field if it is written
in ASCII. -/
theorem spells_of_mem_labelMarkers {query : Text} {f : Field} {m : Marker}
    (hm : m ∈ labelMarkers query f.label)
    (hascii : ∀ c ∈ m.spelling query f.label, c.toNat < 128) :
    ∃ front rest, query = front ++ '+' :: (m.spelling query f.label ++ ':' :: rest) ∧
      front.length = m.start ∧ (m.spelling query f.label).length = f.label.length ∧
      Spells (m.spelling query f.label) f.label := by
  obtain ⟨l, rest, hdrop, hl, -⟩ :=
    afterLabel?_eq_some_iff.mp (standsIn_of_mem_labelMarkersFrom List.drop_zero hm).follows
  have hlength : l.length = f.label.length := by
    have hmap := congrArg List.length hl
    rwa [List.length_map, List.length_map] at hmap
  have hspelling : m.spelling query f.label = l := by
    unfold Marker.spelling
    rw [← List.drop_drop, hdrop, List.drop_one, List.tail_cons, ← hlength, List.take_left]
  rw [hspelling] at hascii ⊢
  refine ⟨query.take m.start, rest, ?_, ?_, hlength, ?_⟩
  · rw [← hdrop, List.take_append_drop]
  · have hne : (query.drop m.start).length ≠ 0 := by
      rw [hdrop]
      exact Nat.succ_ne_zero _
    rw [List.length_drop] at hne
    rw [List.length_take]
    omega
  · exact (map_plainLetter_eq_iff hascii).mp hl

end CandidateSearch

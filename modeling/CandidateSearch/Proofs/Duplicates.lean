import CandidateSearch.Proofs.Clauses
import CandidateSearch.Proofs.Labels

/-!
# Fields given more than once

Validation counts labels and parsing reads clauses, and both look at the stretch before each colon.
The label that validation sees begins behind the first plus sign of the stretch and is trimmed; the
name of a marker begins behind the last one and is not.  So the two counts differ by the stretches
with a plus sign in front of their marker and by those with blanks around a name.

* `length_remainders`: the clauses of a field are the stretches that end in one of its markers;
* `count_named_fieldLabels`: its labels are the stretches that name it behind their first plus sign;
* `namesFirst_add_isHidden`: how the two differ on one stretch;
* `mem_warnings_duplicateField_iff`, `duplicate_warning_iff`: when a field is reported as given more
  than once.
-/

namespace CandidateSearch

/-! ## The last plus sign -/

/-- What follows the last occurrence of a character, if there is one. -/
def Text.afterLast? (c : Char) : Text → Option Text
  | [] => none
  | d :: rest => (afterLast? c rest).or (if d == c then some rest else none)

/-- Without the character there is no last occurrence. -/
theorem Text.afterLast?_of_not_mem {c : Char} {t : Text} (h : c ∉ t) : afterLast? c t = none := by
  induction t with
  | nil => rfl
  | cons d t ih =>
    rw [List.mem_cons, not_or] at h
    rw [afterLast?, ih h.2, Option.none_or, if_neg (by simpa using Ne.symm h.1)]

/-- An occurrence is the last one if none follows. -/
theorem Text.afterLast?_append_cons {c : Char} (front : Text) {l : Text} (h : c ∉ l) :
    afterLast? c (front ++ c :: l) = some l := by
  induction front with
  | nil =>
    rw [List.nil_append, afterLast?, afterLast?_of_not_mem h, Option.none_or, if_pos (by simp)]
  | cons d front ih => rw [List.cons_append, afterLast?, ih, Option.some_or]

/-! ## Clauses and the stretches before colons -/

/-- A stretch ends in a marker of the field: what follows its last plus sign is the name. -/
def namesLast (f : Field) (piece : Text) : Bool :=
  (Text.afterLast? '+' piece).any fun name => decide (Spells name f.label)

/-- A stretch is seen as a label of the field: what follows its first plus sign is the name, but for
blanks around it. -/
def namesFirst (f : Field) (piece : Text) : Bool :=
  (Text.after? '+' piece).any fun name => decide (Spells name.trim f.label)

/-- Blanks in front of a text hide no marker. -/
theorem remainders_trimStart (label t : Text) :
    remainders label (Text.trimStart t) = remainders label t := by
  have hplus : '+' ∉ t.takeWhile isBlank := fun hmem =>
    absurd (List.mem_takeWhile_imp hmem) (by decide)
  conv_rhs => rw [← List.takeWhile_append_dropWhile (p := isBlank) (l := t)]
  rw [remainders_append_of_not_mem_plus _ hplus, Text.trimStart]

/-- A text without a colon holds no marker. -/
theorem remainders_of_not_mem_colon {label t : Text} (h : ':' ∉ t) : remainders label t = [] := by
  induction t using marker_induction label with
  | nil => exact remainders_nil label
  | marker t beyond hmarker ih =>
    obtain ⟨l, r, rfl, -, -⟩ := afterLabel?_eq_some_iff.mp hmarker
    simp at h
  | other c rest hnone ih =>
    rw [remainders_cons hnone]
    exact ih fun hmem => h (List.mem_cons_of_mem c hmem)

/-- No marker begins in front of the last plus sign before a colon. -/
theorem remainders_append_plus {label front l : Text} (rest : Text) (hlabel : IsLabel label)
    (hfront : ':' ∉ front) (hl : ':' ∉ l) :
    remainders label (front ++ '+' :: (l ++ ':' :: rest))
      = remainders label ('+' :: (l ++ ':' :: rest)) := by
  induction front with
  | nil => rfl
  | cons c front ih =>
    rw [List.mem_cons, not_or] at hfront
    have hnone : afterLabel? label (c :: (front ++ '+' :: (l ++ ':' :: rest))) = none := by
      rw [afterLabel?_eq_none_iff]
      intro name r ht hname
      have hstretch : ':' ∉ front ++ '+' :: l := by
        rw [List.mem_append, List.mem_cons, not_or, not_or]
        exact ⟨hfront.2, by decide, hl⟩
      -- the label would reach over the plus sign up to the colon
      have hsplit : (front ++ '+' :: l) ++ ':' :: rest = name ++ ':' :: r := by
        rw [List.append_assoc, List.cons_append]
        exact (List.cons.inj ht).2
      obtain ⟨rfl, -⟩ :=
        Text.append_cons_inj hstretch (hlabel.not_mem hname (by decide)) hsplit
      exact hlabel.not_mem hname (c := '+') (by decide) (by simp)
    rw [List.cons_append, remainders_cons hnone, ih hfront.2]

/-- A stretch without a plus sign is passed over together with its colon. -/
theorem remainders_append_colon {label l : Text} (rest : Text) (h : '+' ∉ l) :
    remainders label (l ++ ':' :: rest) = remainders label rest := by
  have hplus : '+' ∉ l ++ [':'] := List.not_mem_append h (by decide)
  rw [← List.singleton_append, ← List.append_assoc, remainders_append_of_not_mem_plus rest hplus]

/-- At the last plus sign before a colon stands a marker of the field or none. -/
theorem afterLabel?_plus (f : Field) {l : Text} (rest : Text) (hl : ':' ∉ l)
    (hascii : ∀ c ∈ l, c.toNat < 128) :
    afterLabel? f.label ('+' :: (l ++ ':' :: rest))
      = if Spells l f.label then some rest.trimStart else none := by
  have hspells := map_plainLetter_eq_iff (f := f) hascii
  split_ifs with hname
  · exact afterLabel?_eq_some_iff.mpr ⟨l, rest, rfl, hspells.mpr hname, rfl⟩
  · rw [afterLabel?_eq_none_iff]
    intro name r ht hmap
    have hcolon : ':' ∉ name := (isLabel_label f).not_mem hmap (by decide)
    obtain ⟨rfl, -⟩ := Text.append_cons_inj hl hcolon (List.cons.inj ht).2
    exact hname (hspells.mp hmap)

/-- **One stretch contributes one clause or none.** -/
theorem length_remainders_piece (f : Field) {piece : Text} (rest : Text) (hpiece : ':' ∉ piece)
    (hascii : ∀ c ∈ piece, c.toNat < 128) :
    (remainders f.label (piece ++ ':' :: rest)).length
      = (remainders f.label rest).length + if namesLast f piece then 1 else 0 := by
  by_cases hplus : '+' ∈ piece
  · obtain ⟨front, l, rfl, hl⟩ := Text.exists_append_cons_of_mem hplus
    rw [List.mem_append, List.mem_cons, not_or, not_or] at hpiece
    obtain ⟨hfront, -, hcolon⟩ := hpiece
    have hmarker := afterLabel?_plus f rest hcolon fun c hc =>
      hascii c (List.mem_append_right _ (List.mem_cons_of_mem _ hc))
    rw [List.append_assoc, List.cons_append,
      remainders_append_plus rest (isLabel_label f) hfront hcolon, namesLast,
      Text.afterLast?_append_cons front hl, Option.any_some]
    by_cases hname : Spells l f.label
    · rw [if_pos hname] at hmarker
      rw [remainders_marker hmarker, List.length_cons, remainders_trimStart, if_pos (by simpa)]
    · rw [if_neg hname] at hmarker
      rw [remainders_cons hmarker, remainders_append_colon rest hl, if_neg (by simpa), Nat.add_zero]
  · rw [remainders_append_colon rest hplus, namesLast, Text.afterLast?_of_not_mem hplus]
    rfl

/-- **The clauses of a field are the stretches that end in one of its markers.** -/
theorem length_remainders (f : Field) {t : Text} (hascii : ∀ c ∈ t, c.toNat < 128) :
    (remainders f.label t).length = (stretches t).countP (namesLast f) := by
  induction t using colon_induction with
  | last piece hpiece =>
    rw [remainders_of_not_mem_colon hpiece, stretches_of_not_mem hpiece]
    rfl
  | colon piece rest hpiece ih =>
    have hfront : ∀ c ∈ piece, c.toNat < 128 := fun c hc => hascii c (List.mem_append_left _ hc)
    have hrest : ∀ c ∈ rest, c.toNat < 128 := fun c hc =>
      hascii c (List.mem_append_right _ (List.mem_cons_of_mem _ hc))
    rw [length_remainders_piece f rest hpiece hfront, ih hrest, stretches_append_colon rest hpiece,
      List.countP_cons]

/-! ## Labels and the stretches before colons -/

/-- The stretches of a text hold its characters. -/
theorem mem_of_mem_stretches {t piece : Text} {c : Char} (h : piece ∈ stretches t) (hc : c ∈ piece) :
    c ∈ t := by
  induction t using colon_induction with
  | last p hp =>
    rw [stretches_of_not_mem hp] at h
    cases h
  | colon p rest hp ih =>
    rw [stretches_append_colon rest hp, List.mem_cons] at h
    rcases h with rfl | h
    · exact List.mem_append_left _ hc
    · exact List.mem_append_right _ (List.mem_cons_of_mem _ (ih h))

/-- The label of a stretch names a field exactly if the name follows its first plus sign. -/
theorem named?_labelOf?_iff {f : Field} {piece : Text} (hascii : ∀ c ∈ piece, c.toNat < 128) :
    (labelOf? piece).bind Field.named? = some f ↔ namesFirst f piece = true := by
  unfold labelOf? namesFirst
  cases hplus : Text.after? '+' piece with
  | none => simp
  | some name =>
    obtain ⟨before, -, rfl⟩ := Text.after?_eq_some hplus
    rw [Option.any_some, decide_eq_true_eq]
    by_cases hempty : name.isEmpty
    · -- an empty label counts as none, and is no name either
      rw [List.isEmpty_iff.mp hempty]
      constructor
      · intro h
        cases h
      · intro h
        exact absurd rfl h.ne_nil
    · have hname : ∀ c ∈ name.trim, c.toNat < 128 := fun c hc =>
        hascii c (List.mem_append_right _
          (List.mem_cons_of_mem _ ((Text.trim_isInfix name).subset hc)))
      show (if name.isEmpty then none else some name.trim).bind Field.named? = some f ↔ _
      rw [if_neg hempty, Option.bind_some, named?_eq_some_iff (by rwa [Text.trim_trim]),
        Text.trim_trim]

/-- **The labels of a field are the stretches that name it behind their first plus sign.** -/
theorem count_named_fieldLabels (f : Field) {t : Text} (hascii : ∀ c ∈ t, c.toNat < 128) :
    ((fieldLabels t).filterMap Field.named?).count f = (stretches t).countP (namesFirst f) := by
  rw [fieldLabels_eq_filterMap, List.filterMap_filterMap, List.count_filterMap]
  apply List.countP_congr
  intro piece hpiece
  rw [beq_iff_eq]
  exact named?_labelOf?_iff fun c hc => hascii c (mem_of_mem_stretches hpiece hc)

/-! ## How the two counts differ -/

/-- A stretch hides its marker of the field from validation: another plus sign stands before it. -/
def isHidden (f : Field) (piece : Text) : Bool :=
  namesLast f piece && (Text.after? '+' piece).any fun name => decide ('+' ∈ name)

/-- A stretch names the field with blanks around the name, which no marker has. -/
def isSpaced (f : Field) (piece : Text) : Bool :=
  (Text.after? '+' piece).any fun name => decide (Spells name.trim f.label ∧ name.trim ≠ name)

/-- **How labels and markers differ on one stretch.** -/
theorem namesFirst_add_isHidden (f : Field) (piece : Text) :
    (namesFirst f piece).toNat + (isHidden f piece).toNat
      = (namesLast f piece).toNat + (isSpaced f piece).toNat := by
  cases hplus : Text.after? '+' piece with
  | none =>
    have hlast := Text.afterLast?_of_not_mem (Text.after?_eq_none_iff.mp hplus)
    simp only [namesFirst, isHidden, namesLast, isSpaced, hplus, hlast, Option.any_none,
      Bool.false_and]
  | some name =>
    by_cases hmore : '+' ∈ name
    · -- no name of a field holds a plus sign, blanks around it or not
      have hname : ¬ Spells name.trim f.label := fun h =>
        h.not_mem_plus (Text.mem_trim (by decide) hmore)
      simp [namesFirst, isHidden, isSpaced, hplus, hmore, hname]
    · -- both names are the text behind the only plus sign
      obtain ⟨before, -, rfl⟩ := Text.after?_eq_some hplus
      have hlast := Text.afterLast?_append_cons before hmore
      by_cases htrim : name.trim = name
      · simp [namesFirst, isHidden, namesLast, isSpaced, hplus, hlast, hmore, htrim]
      · have hname : ¬ Spells name f.label := fun h => htrim h.trim
        simp [namesFirst, isHidden, namesLast, isSpaced, hplus, hlast, hmore, htrim, hname]

/-- Counting one stretch more. -/
theorem countP_cons_toNat (p : Text → Bool) (piece : Text) (pieces : List Text) :
    (piece :: pieces).countP p = pieces.countP p + (p piece).toNat := by
  rw [List.countP_cons]
  cases p piece <;> rfl

/-- How labels and markers differ on some stretches. -/
theorem countP_namesFirst_add (f : Field) (pieces : List Text) :
    pieces.countP (namesFirst f) + pieces.countP (isHidden f)
      = pieces.countP (namesLast f) + pieces.countP (isSpaced f) := by
  induction pieces with
  | nil => rfl
  | cons piece pieces ih =>
    have hpiece := namesFirst_add_isHidden f piece
    simp only [countP_cons_toNat]
    omega

/-! ## The remark -/

/-- The words of a remark on a field given more than once. -/
theorem message_duplicateField (f : Field) :
    (Remark.duplicateField f).message
      = "Duplicate field: ".toList ++ f.label
        ++ " (only the first complete clause is used)".toList := rfl

/-- A remark on a field given more than once is told apart from every other one by its words. -/
theorem message_duplicateField_inj {f : Field} {r : Remark}
    (h : r.message = (Remark.duplicateField f).message) : r = .duplicateField f := by
  have hfirst : r.message.head? = some 'D' := by rw [h]; rfl
  cases r with
  | duplicateField g =>
    rw [message_duplicateField, message_duplicateField, List.append_left_inj,
      List.append_right_inj] at h
    rw [eq_of_map_plainLetter_label (congrArg (List.map plainLetter) h)]
  | emptyValue g =>
    have hother : (Remark.emptyValue g).message.head? = some 'E' := rfl
    rw [hother] at hfirst
    exact absurd hfirst (by decide)
  | unrecognizedScope g value =>
    have hother : (Remark.unrecognizedScope g value).message.head? = some 'U' := rfl
    rw [hother] at hfirst
    exact absurd hfirst (by decide)

/-- **The remark stands for a label that validation sees more than once.** -/
theorem mem_warnings_duplicateField_iff (query : Text) (f : Field) :
    (Remark.duplicateField f).message ∈ (validate query).warnings ↔
      1 < ((fieldLabels query).filterMap Field.named?).count f := by
  have hremark : (Remark.duplicateField f).message ∈ (validate query).warnings ↔
      .duplicateField f ∈ remarksOf query := by
    constructor
    · intro h
      obtain ⟨r, hr, hmessage⟩ := List.mem_map.mp h
      rwa [← message_duplicateField_inj hmessage]
    · exact List.mem_map_of_mem
  have hmem : Remark.duplicateField f ∈ remarksOf query ↔
      f ∈ duplicateFields (fieldLabels query) := by
    simp [remarksOf]
  rw [hremark, hmem, duplicateFields, List.mem_filter, List.mem_eraseDups, decide_eq_true_eq,
    and_iff_right_iff_imp]
  intro hcount
  exact List.count_pos_iff.mp (by omega)

/-- **When a field is reported as given more than once.**  In a query of ASCII this depends on the
number of its clauses, less those whose marker stands behind another plus sign, and with the places
where blanks around the name keep a marker from being one.  In particular the field is reported
exactly if it has more than one clause, where neither happens. -/
theorem duplicate_warning_iff {query : Text} (hascii : ∀ c ∈ query, c.toNat < 128) (f : Field) :
    ((Remark.duplicateField f).message ∈ (validate query).warnings ↔
        1 + (stretches query).countP (isHidden f)
          < (clauseContents query f.label).length + (stretches query).countP (isSpaced f)) ∧
      ((∀ piece ∈ stretches query, isHidden f piece = false ∧ isSpaced f piece = false) →
        ((Remark.duplicateField f).message ∈ (validate query).warnings ↔
          1 < (clauseContents query f.label).length)) := by
  have hclauses : (clauseContents query f.label).length
      = (stretches query).countP (namesLast f) := by
    rw [clauseContents_eq_map, List.length_map, length_remainders f hascii]
  have hcounts := countP_namesFirst_add f (stretches query)
  rw [mem_warnings_duplicateField_iff, count_named_fieldLabels f hascii, hclauses]
  constructor
  · omega
  · intro hclean
    have hhidden : (stretches query).countP (isHidden f) = 0 := by
      rw [List.countP_eq_zero]
      intro piece hpiece
      simp [(hclean piece hpiece).1]
    have hspaced : (stretches query).countP (isSpaced f) = 0 := by
      rw [List.countP_eq_zero]
      intro piece hpiece
      simp [(hclean piece hpiece).2]
    omega

/-- A query with a location behind a stray plus sign, one with blanks, and two plain ones. -/
def strayQuery : Text :=
  "C++ +Location:(Paris), + Location :(Rome), +LOCATION:(Oslo), +location:Bern".toList

/-- The stray query is reported for its location, of which it has three clauses. -/
theorem duplicate_warning_strayQuery :
    (stretches strayQuery).countP (isHidden (.list .location)) = 1 ∧
      (stretches strayQuery).countP (isSpaced (.list .location)) = 1 ∧
      (clauseContents strayQuery (Field.label (.list .location))).length = 3 ∧
      (Remark.duplicateField (.list .location)).message ∈ (validate strayQuery).warnings := by
  have hhidden : (stretches strayQuery).countP (isHidden (.list .location)) = 1 := by
    decide +kernel
  have hspaced : (stretches strayQuery).countP (isSpaced (.list .location)) = 1 := by
    decide +kernel
  have hclauses : (clauseContents strayQuery (Field.label (.list .location))).length = 3 := by
    decide +kernel
  have hascii : ∀ c ∈ strayQuery, c.toNat < 128 := Text.forall_mem_of_all (by decide +kernel)
  have hiff := (duplicate_warning_iff hascii (.list .location)).1
  rw [hhidden, hspaced, hclauses] at hiff
  exact ⟨hhidden, hspaced, hclauses, hiff.mpr (by decide)⟩

/-- **The remark and the clauses part**: some query of ASCII has two clauses of a field and no remark
on it, since the first marker stands behind another plus sign. -/
theorem exists_uncounted_clause :
    ¬ ∀ (query : Text) (f : ListField), (∀ c ∈ query, c.toNat < 128) →
      ((Remark.duplicateField (.list f)).message ∈ (validate query).warnings ↔
        1 < (clauseContents query f.label).length) := by
  intro h
  have hiff := h "C++ +Location:(Paris), +Location:(Rome)".toList .location
    (Text.forall_mem_of_all (by decide +kernel))
  exact absurd (hiff.mpr (by decide +kernel)) (by decide +kernel)

end CandidateSearch

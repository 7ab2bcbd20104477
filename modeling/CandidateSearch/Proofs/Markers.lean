import CandidateSearch.Proofs.Text
import CandidateSearch.Query.Marker
import CandidateSearch.Query.Token

/-!
# Laws of field markers

`remainders` lists what follows each marker of a label, which is all that the readers of clauses and
scalars look at.  A word break can stand neither in a marker nor among the blanks behind it, so texts
with a word break between them hold their markers independently.

* `Marker.StandsIn`, `standsIn_of_mem_labelMarkersFrom`: the markers that are read stand in the query;
* `map_drop_labelMarkers`: the remainders are what stands at the ends of the markers;
* `remainders_append`: markers on both sides of a word break;
* `nextMarker_append`: the next marker of any label, across a word break;
* `remainders_of_nextMarker`: every marker of a label is a marker;
* `remainders_marker_self`, `remainders_marker_of_ne`: a written marker is a marker of its own field
  and of no other.
-/

namespace CandidateSearch

/-! ## Labels -/

/-- A text that can be the label of a marker: not empty, and without a letter that some character
which ends labels could be taken for. -/
def IsLabel (label : Text) : Prop :=
  label ≠ [] ∧ ∀ p ∈ label, ∀ c, endsLabel c = true → sameLetter p c = false

/-- The characters that end labels. -/
theorem endsLabel_iff {c : Char} : endsLabel c = true ↔ c = ':' ∨ c = '+' ∨ isWordBreak c = true := by
  simp only [endsLabel, isWordBreak, Bool.or_eq_true, beq_iff_eq]
  tauto

/-- A word break is one of four characters. -/
theorem isWordBreak_iff {c : Char} :
    isWordBreak c = true ↔ c = '"' ∨ c = '(' ∨ c = ')' ∨ c = ',' := by
  simp only [isWordBreak, Bool.or_eq_true, beq_iff_eq, or_assoc]

/-- A word break is no blank. -/
theorem isBlank_of_isWordBreak {c : Char} (h : isWordBreak c = true) : isBlank c = false := by
  rcases isWordBreak_iff.mp h with rfl | rfl | rfl | rfl <;> decide

/-- No marker begins with a word break. -/
theorem ne_plus_of_isWordBreak {c : Char} (h : isWordBreak c = true) : c ≠ '+' := by
  rintro rfl
  exact absurd h (by decide)

/-- Every field is listed. -/
theorem Field.mem_all (f : Field) : f ∈ all := by
  rcases f with f | f <;> cases f <;> decide

/-- The label of every field can be the label of a marker. -/
theorem isLabel_label (f : Field) : IsLabel f.label := by
  have hne : ∀ f ∈ Field.all, f.label ≠ [] := by decide
  have hall : ∀ f ∈ Field.all, f.label.all (fun p =>
      [':', '+', '"', '(', ')', ','].all fun c => !sameLetter p c) = true := by
    decide +kernel
  have hends : ∀ p ∈ f.label, ∀ c ∈ [':', '+', '"', '(', ')', ','], sameLetter p c = false := by
    intro p hp c hc
    simpa using List.all_eq_true.mp (List.all_eq_true.mp (hall f f.mem_all) p hp) c hc
  refine ⟨hne f f.mem_all, fun p hp c hc => hends p hp c ?_⟩
  rcases endsLabel_iff.mp hc with rfl | rfl | hc
  · decide
  · decide
  · rcases isWordBreak_iff.mp hc with rfl | rfl | rfl | rfl <;> decide

/-- Two fields with the same label up to case are the same field. -/
theorem eq_of_map_plainLetter_label {f g : Field}
    (h : f.label.map plainLetter = g.label.map plainLetter) : f = g := by
  have hall : ∀ f ∈ Field.all, ∀ g ∈ Field.all,
      f.label.map plainLetter = g.label.map plainLetter → f = g := by
    decide +kernel
  exact hall f f.mem_all g g.mem_all h

/-! ## A marker at the beginning of a text -/

/-- A stretch that equals a label up to case is as long as the label and agrees with it letter by
letter. -/
theorem afterSameLetters?_eq_some_iff {part t rest : Text} :
    afterSameLetters? part t = some rest ↔
      ∃ l, t = l ++ rest ∧ l.map plainLetter = part.map plainLetter := by
  induction part generalizing t with
  | nil => simp [afterSameLetters?, eq_comm]
  | cons p part ih =>
    cases t with
    | nil => simp [afterSameLetters?]
    | cons c t =>
      rw [afterSameLetters?]
      by_cases hpc : sameLetter p c = true
      · rw [if_pos hpc, ih]
        have hletter : plainLetter c = plainLetter p := by
          rw [sameLetter, beq_iff_eq] at hpc
          exact hpc.symm
        constructor
        · rintro ⟨l, rfl, hl⟩
          exact ⟨c :: l, rfl, by rw [List.map_cons, List.map_cons, hletter, hl]⟩
        · rintro ⟨l, hl, hmap⟩
          cases l with
          | nil => simp at hmap
          | cons d l =>
            rw [List.cons_append, List.cons.injEq] at hl
            rw [List.map_cons, List.map_cons, List.cons.injEq] at hmap
            exact ⟨l, hl.2, hmap.2⟩
      · rw [if_neg hpc]
        constructor
        · intro h
          cases h
        · rintro ⟨l, hl, hmap⟩
          cases l with
          | nil => simp at hmap
          | cons d l =>
            rw [List.cons_append, List.cons.injEq] at hl
            rw [List.map_cons, List.map_cons, List.cons.injEq] at hmap
            exact absurd (by rw [sameLetter, beq_iff_eq, hl.1, hmap.1]) hpc

/-- A text that agrees with a label letter by letter holds no character that ends labels. -/
theorem IsLabel.not_endsLabel {label l : Text} (hlabel : IsLabel label)
    (hl : l.map plainLetter = label.map plainLetter) : ∀ c ∈ l, endsLabel c = false := by
  intro c hc
  have hmem : plainLetter c ∈ label.map plainLetter := by
    rw [← hl]
    exact List.mem_map_of_mem hc
  obtain ⟨p, hp, hpc⟩ := List.mem_map.mp hmem
  rw [Bool.eq_false_iff]
  intro hends
  have hsame : sameLetter p c = true := by
    rw [sameLetter, beq_iff_eq, hpc]
  rw [hlabel.2 p hp c hends] at hsame
  exact absurd hsame (by decide)

/-- Such a text does not hold a given one of these characters. -/
theorem IsLabel.not_mem {label l : Text} {c : Char} (hlabel : IsLabel label)
    (hl : l.map plainLetter = label.map plainLetter) (hc : endsLabel c = true) : c ∉ l := by
  intro hmem
  rw [hlabel.not_endsLabel hl c hmem] at hc
  cases hc

/-- **What a marker of a label looks like.** -/
theorem afterLabel?_eq_some_iff {label t beyond : Text} :
    afterLabel? label t = some beyond ↔
      ∃ l r, t = '+' :: (l ++ ':' :: r) ∧ l.map plainLetter = label.map plainLetter ∧
        beyond = Text.trimStart r := by
  constructor
  · intro h
    unfold afterLabel? at h
    split at h
    · next rest =>
      split at h
      · next r hr =>
        obtain ⟨l, rfl, hl⟩ := afterSameLetters?_eq_some_iff.mp hr
        exact ⟨l, r, rfl, hl, (Option.some.inj h).symm⟩
      · cases h
    · cases h
  · rintro ⟨l, r, rfl, hl, rfl⟩
    have hsame : afterSameLetters? label (l ++ ':' :: r) = some (':' :: r) :=
      afterSameLetters?_eq_some_iff.mpr ⟨l, rfl, hl⟩
    simp only [afterLabel?, hsame]

/-- **What a text looks like where no marker of a label begins.** -/
theorem afterLabel?_eq_none_iff {label t : Text} :
    afterLabel? label t = none ↔
      ∀ l r, t = '+' :: (l ++ ':' :: r) → l.map plainLetter ≠ label.map plainLetter := by
  rw [Option.eq_none_iff_forall_ne_some]
  constructor
  · intro h l r ht hl
    exact h _ (afterLabel?_eq_some_iff.mpr ⟨l, r, ht, hl, rfl⟩)
  · intro h beyond hbeyond
    obtain ⟨l, r, ht, hl, -⟩ := afterLabel?_eq_some_iff.mp hbeyond
    exact h l r ht hl

/-- At most one field has a marker at the beginning of a text. -/
theorem eq_of_afterLabel?_eq_some {f g : Field} {t b b' : Text}
    (h : afterLabel? f.label t = some b) (h' : afterLabel? g.label t = some b') : f = g := by
  obtain ⟨l, r, ht, hl, -⟩ := afterLabel?_eq_some_iff.mp h
  obtain ⟨l', r', ht', hl', -⟩ := afterLabel?_eq_some_iff.mp h'
  rw [ht] at ht'
  -- both labels end at the first colon
  obtain ⟨hsame, -⟩ := Text.append_cons_inj ((isLabel_label f).not_mem hl (by decide))
    ((isLabel_label g).not_mem hl' (by decide)) (List.cons.inj ht').2
  exact eq_of_map_plainLetter_label (by rw [← hl, hsame, hl'])

/-- What follows a marker is an end of the text. -/
theorem isSuffix_of_afterLabel? {label t beyond : Text} (h : afterLabel? label t = some beyond) :
    beyond <:+ t := by
  obtain ⟨l, r, rfl, -, rfl⟩ := afterLabel?_eq_some_iff.mp h
  have hr : r <:+ '+' :: (l ++ ':' :: r) := ⟨'+' :: (l ++ [':']), by simp⟩
  exact (List.dropWhile_suffix isBlank).trans hr

/-- No marker begins with another character than a plus sign. -/
theorem afterLabel?_cons_ne {label : Text} {c : Char} (rest : Text) (h : c ≠ '+') :
    afterLabel? label (c :: rest) = none := by
  rw [afterLabel?_eq_none_iff]
  intro l r ht
  exact absurd (List.cons.inj ht).1 h

/-- A label and its colon stand wholly before or wholly behind a word break. -/
theorem exists_eq_of_append_eq_marker {c d : Char} {t s l r : Text} (hc : isWordBreak c = true)
    (hl : ∀ e ∈ l, endsLabel e = false) (h : d :: (t ++ c :: s) = '+' :: (l ++ ':' :: r)) :
    ∃ r', d :: t = '+' :: (l ++ ':' :: r') := by
  obtain ⟨rfl, ht⟩ := List.cons.inj h
  have hends : endsLabel c = true := endsLabel_iff.mpr (Or.inr (Or.inr hc))
  have hcolon : c ≠ ':' := by
    rintro rfl
    exact absurd hc (by decide)
  rcases List.append_eq_append_iff.mp ht with ⟨a, rfl, ha⟩ | ⟨a, rfl, ha⟩
  · -- the word break would stand in the label
    cases a with
    | nil => exact absurd (List.cons.inj ha).1 hcolon
    | cons e a =>
      obtain ⟨rfl, -⟩ := List.cons.inj ha
      rw [hl c (List.mem_append_right t List.mem_cons_self)] at hends
      exact absurd hends (by decide)
  · -- the word break stands behind the colon
    cases a with
    | nil => exact absurd (List.cons.inj ha).1.symm hcolon
    | cons e a =>
      obtain ⟨rfl, -⟩ := List.cons.inj ha
      exact ⟨a, rfl⟩

/-- **A marker does not reach across a word break**: what follows it only becomes longer when the
text goes on with a word break. -/
theorem afterLabel?_append {label : Text} {c d : Char} (hlabel : IsLabel label)
    (hc : isWordBreak c = true) (t s : Text) :
    afterLabel? label (d :: (t ++ c :: s))
      = (afterLabel? label (d :: t)).map (· ++ c :: s) := by
  cases h : afterLabel? label (d :: t) with
  | some beyond =>
    obtain ⟨l, r, ht, hl, rfl⟩ := afterLabel?_eq_some_iff.mp h
    obtain ⟨rfl, rfl⟩ := List.cons.inj ht
    rw [Option.map_some, afterLabel?_eq_some_iff]
    refine ⟨l, r ++ c :: s, by rw [List.append_assoc, List.cons_append], hl, ?_⟩
    exact (Text.trimStart_append_cons r s (isBlank_of_isWordBreak hc)).symm
  | none =>
    rw [Option.map_none, afterLabel?_eq_none_iff]
    intro l r ht hl
    obtain ⟨r', ht'⟩ := exists_eq_of_append_eq_marker hc (hlabel.not_endsLabel hl) ht
    exact afterLabel?_eq_none_iff.mp h l r' ht' hl

/-! ## What follows the markers of a label -/

/-- What follows each marker of a label, in order. -/
def remainders (label : Text) (t : Text) : List Text :=
  match t with
  | [] => []
  | c :: rest =>
    match h : afterLabel? label (c :: rest) with
    | some beyond =>
      have := length_of_afterLabel? h
      beyond :: remainders label beyond
    | none => remainders label rest
  termination_by t.length
  decreasing_by all_goals (simp only [List.length_cons] at *; omega)

@[simp] theorem remainders_nil (label : Text) : remainders label [] = [] := by
  rw [remainders]

/-- A marker in front. -/
theorem remainders_marker {label t beyond : Text} (h : afterLabel? label t = some beyond) :
    remainders label t = beyond :: remainders label beyond := by
  cases t with
  | nil => cases h
  | cons c rest =>
    rw [remainders]
    split
    · next b hb =>
      rw [h] at hb
      rw [Option.some.inj hb]
    · next hb => rw [h] at hb; cases hb

/-- A character at which no marker begins. -/
theorem remainders_cons {label rest : Text} {c : Char} (h : afterLabel? label (c :: rest) = none) :
    remainders label (c :: rest) = remainders label rest := by
  rw [remainders]
  split
  · next b hb => rw [h] at hb; cases hb
  · rfl

/-- **Induction along the markers of a label.** -/
theorem marker_induction {motive : Text → Prop} (label : Text) (nil : motive [])
    (marker : ∀ t beyond, afterLabel? label t = some beyond → motive beyond → motive t)
    (other : ∀ c rest, afterLabel? label (c :: rest) = none → motive rest → motive (c :: rest))
    (t : Text) : motive t := by
  match t with
  | [] => exact nil
  | c :: rest =>
    cases h : afterLabel? label (c :: rest) with
    | none => exact other c rest h (marker_induction label nil marker other rest)
    | some beyond =>
      have hlen := length_of_afterLabel? h
      exact marker _ beyond h (marker_induction label nil marker other beyond)
  termination_by t.length
  decreasing_by all_goals (simp only [List.length_cons] at *; omega)

/-- Texts on both sides of a word break hold their markers independently. -/
theorem remainders_append {label : Text} {c : Char} (hlabel : IsLabel label)
    (hc : isWordBreak c = true) (t s : Text) :
    remainders label (t ++ c :: s)
      = (remainders label t).map (· ++ c :: s) ++ remainders label s := by
  induction t using marker_induction label with
  | nil =>
    have hplus : c ≠ '+' := ne_plus_of_isWordBreak hc
    rw [List.nil_append, remainders_cons (afterLabel?_cons_ne s hplus), remainders_nil,
      List.map_nil, List.nil_append]
  | marker t beyond h ih =>
    cases t with
    | nil => cases h
    | cons d t =>
      -- the marker stays where it is, and what follows it grows by the second text
      have hlong : afterLabel? label (d :: (t ++ c :: s)) = some (beyond ++ c :: s) := by
        rw [afterLabel?_append hlabel hc, h, Option.map_some]
      rw [List.cons_append, remainders_marker hlong, remainders_marker h, ih, List.map_cons,
        List.cons_append]
  | other d rest h ih =>
    have hlong : afterLabel? label (d :: (rest ++ c :: s)) = none := by
      rw [afterLabel?_append hlabel hc, h, Option.map_none]
    rw [List.cons_append, remainders_cons hlong, remainders_cons h, ih]

/-- No marker begins in a text without a plus sign. -/
theorem remainders_append_of_not_mem_plus {label t : Text} (s : Text) (h : '+' ∉ t) :
    remainders label (t ++ s) = remainders label s := by
  induction t with
  | nil => rfl
  | cons c t ih =>
    rw [List.mem_cons, not_or] at h
    rw [List.cons_append, remainders_cons (afterLabel?_cons_ne _ (Ne.symm h.1)), ih h.2]

/-- A text without a plus sign holds no marker. -/
theorem remainders_of_not_mem_plus {label t : Text} (h : '+' ∉ t) : remainders label t = [] := by
  rw [← List.append_nil t, remainders_append_of_not_mem_plus [] h, remainders_nil]

/-- The remainders are ends of the text. -/
theorem isSuffix_of_mem_remainders {label t r : Text} (h : r ∈ remainders label t) : r <:+ t := by
  induction t using marker_induction label with
  | nil => simp at h
  | marker t beyond hmarker ih =>
    rw [remainders_marker hmarker, List.mem_cons] at h
    rcases h with rfl | h
    · exact isSuffix_of_afterLabel? hmarker
    · exact (ih h).trans (isSuffix_of_afterLabel? hmarker)
  | other c rest hnone ih =>
    rw [remainders_cons hnone] at h
    exact (ih h).trans (List.suffix_cons c rest)

/-- A marker in front reaches as far as what follows it allows. -/
theorem labelMarkersFrom_of_some {label t beyond : Text} (pos : Nat)
    (h : afterLabel? label t = some beyond) :
    labelMarkersFrom label pos t
      = ⟨pos, pos + (t.length - beyond.length)⟩
        :: labelMarkersFrom label (pos + (t.length - beyond.length)) beyond := by
  cases t with
  | nil => cases h
  | cons c rest =>
    rw [labelMarkersFrom]
    split
    · next b hb =>
      rw [h] at hb
      cases hb
      rfl
    · next hb => rw [h] at hb; cases hb

/-- A marker of a label stands in a query: it is found at its start, and what follows it is what
follows its stop. -/
structure Marker.StandsIn (m : Marker) (query label : Text) : Prop where
  follows : afterLabel? label (query.drop m.start) = some (query.drop m.stop)
  stop_le : m.stop ≤ query.length

/-- A marker that stands at the front of what follows position `pos`, and the markers behind it. -/
theorem labelMarkersFrom_marker {query label t beyond : Text} {pos : Nat} (ht : query.drop pos = t)
    (h : afterLabel? label t = some beyond) :
    ∃ stop, query.drop stop = beyond ∧ Marker.StandsIn ⟨pos, stop⟩ query label ∧
      labelMarkersFrom label pos t = ⟨pos, stop⟩ :: labelMarkersFrom label stop beyond := by
  obtain ⟨marker, hsplit⟩ := isSuffix_of_afterLabel? h
  have hstop : query.drop (pos + (t.length - beyond.length)) = beyond := by
    rw [← List.drop_drop, ht, ← hsplit, List.length_append, Nat.add_sub_cancel, List.drop_left]
  refine ⟨_, hstop, ⟨?_, ?_⟩, labelMarkersFrom_of_some pos h⟩
  · show afterLabel? label (query.drop pos) = _
    rw [ht, h, hstop]
  · have hlength := congrArg List.length ht
    have hshorter := length_of_afterLabel? h
    rw [List.length_drop] at hlength
    show pos + (t.length - beyond.length) ≤ query.length
    omega

/-- A character that begins no marker is passed over. -/
theorem labelMarkersFrom_other {label rest : Text} {c : Char} (pos : Nat)
    (h : afterLabel? label (c :: rest) = none) :
    labelMarkersFrom label pos (c :: rest) = labelMarkersFrom label (pos + 1) rest := by
  rw [labelMarkersFrom]
  split
  · next b hb => rw [h] at hb; cases hb
  · rfl

/-- What follows the next position is the rest of what follows this one. -/
theorem drop_succ_of_drop_eq_cons {query rest : Text} {c : Char} {pos : Nat}
    (h : query.drop pos = c :: rest) : query.drop (pos + 1) = rest := by
  rw [← List.drop_drop, h, List.drop_one, List.tail_cons]

/-- **The remainders are what stands behind the markers.** -/
theorem map_drop_labelMarkersFrom {query label t : Text} {pos : Nat} (ht : query.drop pos = t) :
    (labelMarkersFrom label pos t).map (fun m => query.drop m.stop) = remainders label t := by
  induction t using marker_induction label generalizing pos with
  | nil => rw [labelMarkersFrom, remainders_nil, List.map_nil]
  | marker t beyond h ih =>
    obtain ⟨stop, hstop, -, hmarkers⟩ := labelMarkersFrom_marker ht h
    rw [hmarkers, remainders_marker h, List.map_cons, hstop, ih hstop]
  | other c rest h ih =>
    rw [labelMarkersFrom_other pos h, remainders_cons h, ih (drop_succ_of_drop_eq_cons ht)]

/-- Every marker that is read stands in the query. -/
theorem standsIn_of_mem_labelMarkersFrom {query label t : Text} {pos : Nat} {m : Marker}
    (ht : query.drop pos = t) (hm : m ∈ labelMarkersFrom label pos t) : m.StandsIn query label := by
  induction t using marker_induction label generalizing pos with
  | nil =>
    rw [labelMarkersFrom] at hm
    cases hm
  | marker t beyond h ih =>
    obtain ⟨stop, hstop, hstands, hmarkers⟩ := labelMarkersFrom_marker ht h
    rw [hmarkers] at hm
    rcases List.mem_cons.mp hm with rfl | hm
    · exact hstands
    · exact ih hstop hm
  | other c rest h ih =>
    rw [labelMarkersFrom_other pos h] at hm
    exact ih (drop_succ_of_drop_eq_cons ht) hm

/-- The remainders of a query are what stands behind its markers. -/
theorem map_drop_labelMarkers (query label : Text) :
    (labelMarkers query label).map (fun m => query.drop m.stop) = remainders label query :=
  map_drop_labelMarkersFrom (List.drop_zero)

/-- A marker is found exactly if something follows one. -/
theorem findMarker_eq_none_iff {query label : Text} :
    findMarker query label = none ↔ remainders label query = [] := by
  rw [← map_drop_labelMarkers, findMarker, Option.map_eq_none_iff, List.head?_eq_none_iff,
    List.map_eq_nil_iff]

/-! ## Markers of any label -/

/-- **What a marker looks like.** -/
theorem afterMarker?_eq_some_iff {t beyond : Text} :
    afterMarker? t = some beyond ↔
      ∃ l, t = '+' :: (l ++ ':' :: beyond) ∧ l ≠ [] ∧ ∀ c ∈ l, endsLabel c = false := by
  constructor
  · intro h
    unfold afterMarker? at h
    split at h
    · next rest =>
      split at h
      · next c l b htake hdrop =>
        obtain rfl := Option.some.inj h
        refine ⟨c :: l, ?_, List.cons_ne_nil c l, fun d hd => ?_⟩
        · rw [← htake, ← hdrop, List.takeWhile_append_dropWhile]
        · rw [← htake] at hd
          simpa using List.mem_takeWhile_imp hd
      · cases h
    · cases h
  · rintro ⟨l, rfl, hne, hl⟩
    obtain ⟨c, l, rfl⟩ := List.exists_cons_of_ne_nil hne
    have hall : ∀ d ∈ c :: l, (!endsLabel d) = true := fun d hd => by simp [hl d hd]
    have hdrop : (':' :: beyond).dropWhile (!endsLabel ·) = ':' :: beyond := rfl
    rw [afterMarker?, List.takeWhile_append_of_pos hall, List.dropWhile_append_of_pos hall, hdrop]
    rfl

/-- A marker does not reach across a word break. -/
theorem isSome_afterMarker?_append {c d : Char} (hc : isWordBreak c = true) (t s : Text) :
    (afterMarker? (d :: (t ++ c :: s))).isSome = (afterMarker? (d :: t)).isSome := by
  rw [Bool.eq_iff_iff, Option.isSome_iff_exists, Option.isSome_iff_exists]
  constructor
  · rintro ⟨beyond, h⟩
    obtain ⟨l, ht, hne, hl⟩ := afterMarker?_eq_some_iff.mp h
    obtain ⟨r, ht'⟩ := exists_eq_of_append_eq_marker hc hl ht
    exact ⟨r, afterMarker?_eq_some_iff.mpr ⟨l, ht', hne, hl⟩⟩
  · rintro ⟨beyond, h⟩
    obtain ⟨l, ht, hne, hl⟩ := afterMarker?_eq_some_iff.mp h
    refine ⟨beyond ++ c :: s, afterMarker?_eq_some_iff.mpr ⟨l, ?_, hne, hl⟩⟩
    rw [← List.cons_append, ht]
    simp

/-- A marker of a label is a marker. -/
theorem isSome_afterMarker?_of_afterLabel? {label t beyond : Text} (hlabel : IsLabel label)
    (h : afterLabel? label t = some beyond) : (afterMarker? t).isSome = true := by
  obtain ⟨l, r, rfl, hl, -⟩ := afterLabel?_eq_some_iff.mp h
  have hne : l ≠ [] := by
    rintro rfl
    exact hlabel.1 (List.map_eq_nil_iff.mp hl.symm)
  rw [afterMarker?_eq_some_iff.mpr ⟨l, rfl, hne, hlabel.not_endsLabel hl⟩]
  rfl

/-! ## The next marker -/

/-- The next marker lies within the text, or there is none and the end counts. -/
theorem nextMarker_le_length (t : Text) : nextMarker t ≤ t.length := by
  induction t with
  | nil => rfl
  | cons c t ih =>
    rw [nextMarker, List.length_cons]
    split_ifs
    · exact Nat.zero_le _
    · exact Nat.succ_le_succ ih

/-- At a marker the next one is not far. -/
theorem nextMarker_of_isSome {t : Text} (h : (afterMarker? t).isSome = true) :
    nextMarker t = 0 := by
  cases t with
  | nil => rfl
  | cons c t => rw [nextMarker, if_pos h]

/-- A character at which no marker begins. -/
theorem nextMarker_cons {c : Char} {t : Text} (h : (afterMarker? (c :: t)).isSome = false) :
    nextMarker (c :: t) = nextMarker t + 1 := by
  rw [nextMarker, if_neg (by simp [h])]

/-- No marker begins with another character than a plus sign. -/
theorem nextMarker_cons_ne {c : Char} (t : Text) (h : c ≠ '+') :
    nextMarker (c :: t) = nextMarker t + 1 := by
  refine nextMarker_cons (Bool.eq_false_iff.mpr fun hsome => h ?_)
  obtain ⟨beyond, hbeyond⟩ := Option.isSome_iff_exists.mp hsome
  obtain ⟨l, ht, -, -⟩ := afterMarker?_eq_some_iff.mp hbeyond
  exact (List.cons.inj ht).1

/-- **The next marker across a word break** is the next one before it, if there is one, and else the
next one after it. -/
theorem nextMarker_append {c : Char} (hc : isWordBreak c = true) (t s : Text) :
    nextMarker (t ++ c :: s)
      = if nextMarker t < t.length then nextMarker t else t.length + (nextMarker s + 1) := by
  induction t with
  | nil =>
    have hplus : c ≠ '+' := ne_plus_of_isWordBreak hc
    rw [List.nil_append, nextMarker_cons_ne s hplus, if_neg (by simp), List.length_nil,
      Nat.zero_add]
  | cons d t ih =>
    have hlong := isSome_afterMarker?_append (d := d) hc t s
    cases h : (afterMarker? (d :: t)).isSome with
    | true =>
      rw [List.cons_append, nextMarker_of_isSome (hlong.trans h), nextMarker_of_isSome h,
        if_pos (by simp)]
    | false =>
      rw [List.cons_append, nextMarker_cons (hlong.trans h), nextMarker_cons h, ih,
        List.length_cons]
      split_ifs <;> omega

/-- A text without a next marker holds no marker of any label. -/
theorem remainders_of_nextMarker {label t : Text} (hlabel : IsLabel label)
    (h : nextMarker t = t.length) : remainders label t = [] := by
  induction t using marker_induction label with
  | nil => exact remainders_nil label
  | marker t beyond hmarker ih =>
    rw [nextMarker_of_isSome (isSome_afterMarker?_of_afterLabel? hlabel hmarker)] at h
    rw [List.eq_nil_of_length_eq_zero h.symm] at hmarker
    cases hmarker
  | other c rest hnone ih =>
    rw [remainders_cons hnone]
    refine ih ?_
    rw [nextMarker, List.length_cons] at h
    split_ifs at h
    exact Nat.succ_inj.mp h

/-! ## Written markers -/

/-- The marker of a field, as it is written. -/
def Field.marker (f : Field) : Text := '+' :: (f.label ++ [':'])

/-- The label of a field holds no character that ends labels. -/
theorem not_endsLabel_of_mem_label (f : Field) : ∀ c ∈ f.label, endsLabel c = false :=
  (isLabel_label f).not_endsLabel rfl

/-- A written marker is a marker. -/
theorem nextMarker_marker (f : Field) (rest : Text) : nextMarker (f.marker ++ rest) = 0 := by
  refine nextMarker_of_isSome ?_
  have hmarker : afterMarker? (f.marker ++ rest) = some rest := by
    rw [afterMarker?_eq_some_iff]
    exact ⟨f.label, by simp [Field.marker], (isLabel_label f).1, not_endsLabel_of_mem_label f⟩
  rw [hmarker]
  rfl

/-- A written marker is a marker of its own field. -/
theorem afterLabel?_marker (f : Field) (rest : Text) :
    afterLabel? f.label (f.marker ++ rest) = some (Text.trimStart rest) :=
  afterLabel?_eq_some_iff.mpr ⟨f.label, rest, by simp [Field.marker], rfl, rfl⟩

/-- A written marker is a marker of no other field. -/
theorem afterLabel?_marker_of_ne {f g : Field} (h : f ≠ g) (rest : Text) :
    afterLabel? f.label (g.marker ++ rest) = none := by
  rw [Option.eq_none_iff_forall_ne_some]
  intro beyond hbeyond
  exact h (eq_of_afterLabel?_eq_some hbeyond (afterLabel?_marker g rest))

/-- What follows a written marker of the field. -/
theorem remainders_marker_self (f : Field) (rest : Text) :
    remainders f.label (f.marker ++ rest)
      = Text.trimStart rest :: remainders f.label (Text.trimStart rest) :=
  remainders_marker (afterLabel?_marker f rest)

/-- A written marker of another field is passed over. -/
theorem remainders_marker_of_ne {f g : Field} (h : f ≠ g) (rest : Text) :
    remainders f.label (g.marker ++ rest) = remainders f.label rest := by
  have hplus : '+' ∉ g.label ++ [':'] :=
    List.not_mem_append ((isLabel_label g).not_mem rfl (by decide)) (by decide)
  have hnone := afterLabel?_marker_of_ne h rest
  rw [Field.marker, List.cons_append] at hnone ⊢
  rw [remainders_cons hnone, remainders_append_of_not_mem_plus rest hplus]

end CandidateSearch

import CandidateSearch.Proofs.Markers

/-!
# Where markers stand

A marker holds one plus sign, its first character, and behind it letters of the label, a colon and
blanks.  So two markers do not overlap, whatever their labels, and the search for the markers of a
label, which goes on behind each one that it finds, misses none that stands in the query.

* `Marker.StandsIn.source`: what a marker is made of;
* `Marker.StandsIn.stop_le_start`: markers do not overlap;
* `mem_labelMarkers_iff`: the markers that are read are those that stand in the query;
* `nextMarker_spec`: the next marker of any label is the first one.
-/

namespace CandidateSearch

/-! ## Markers of one label -/

section Standing

variable {query label : Text} {m n : Marker}

/-- **What a marker is made of**: a plus sign, the label letter by letter, a colon, and the blanks
behind it. -/
theorem Marker.StandsIn.source (h : m.StandsIn query label) :
    ∃ l blanks, query.drop m.start = '+' :: (l ++ ':' :: (blanks ++ query.drop m.stop)) ∧
      l.map plainLetter = label.map plainLetter ∧ (∀ c ∈ blanks, isBlank c = true) ∧
      m.stop = m.start + (l.length + blanks.length + 2) := by
  obtain ⟨l, r, hstart, hl, hstop⟩ := afterLabel?_eq_some_iff.mp h.follows
  have hr : r.takeWhile isBlank ++ query.drop m.stop = r := by
    rw [hstop]
    exact List.takeWhile_append_dropWhile
  refine ⟨l, r.takeWhile isBlank, by rw [hr]; exact hstart, hl,
    fun c hc => List.mem_takeWhile_imp hc, ?_⟩
  have hlength := congrArg List.length hstart
  rw [← hr] at hlength
  simp only [List.length_drop, List.length_cons, List.length_append] at hlength
  have hle := h.stop_le
  omega

/-- A marker is not empty. -/
theorem Marker.StandsIn.start_lt_stop (h : m.StandsIn query label) : m.start < m.stop := by
  obtain ⟨l, blanks, -, -, -, hstop⟩ := h.source
  omega

/-- A marker begins with a plus sign. -/
theorem Marker.StandsIn.getElem?_start (h : m.StandsIn query label) :
    query[m.start]? = some '+' := by
  obtain ⟨l, blanks, hstart, -⟩ := h.source
  rw [← List.head?_drop, hstart, List.head?_cons]

/-- Behind its plus sign, a marker holds its colon and characters that no label ends with. -/
theorem Marker.StandsIn.eq_colon_or (hlabel : IsLabel label) (h : m.StandsIn query label) {i : Nat}
    {c : Char} (hstart : m.start < i) (hstop : i < m.stop) (hc : query[i]? = some c) :
    c = ':' ∨ endsLabel c = false := by
  obtain ⟨l, blanks, hsource, hl, hblanks, hlength⟩ := h.source
  have hmem : c ∈ l ++ ':' :: blanks := by
    have hsplit : query.drop (m.start + 1) = (l ++ ':' :: blanks) ++ query.drop m.stop := by
      rw [← List.drop_drop, hsource]
      simp
    have hi : (query.drop (m.start + 1))[i - (m.start + 1)]? = some c := by
      rw [List.getElem?_drop, Nat.add_sub_cancel' hstart, hc]
    rw [hsplit, List.getElem?_append_left (by simp; omega)] at hi
    exact List.mem_of_getElem? hi
  rcases List.mem_append.mp hmem with hletter | hbehind
  · exact Or.inr (hlabel.not_endsLabel hl c hletter)
  · refine (List.mem_cons.mp hbehind).imp_right fun hblank => ?_
    rw [Bool.eq_false_iff]
    intro hends
    rcases endsLabel_iff.mp hends with rfl | rfl | hbreak
    · exact absurd (hblanks _ hblank) (by decide)
    · exact absurd (hblanks _ hblank) (by decide)
    · have hb := hblanks c hblank
      rw [isBlank_of_isWordBreak hbreak] at hb
      cases hb

/-- **Markers do not overlap**, whatever their labels: none begins inside another. -/
theorem Marker.StandsIn.stop_le_start {other : Text} (hlabel : IsLabel label)
    (h : m.StandsIn query label) (h' : n.StandsIn query other) (hlt : m.start < n.start) :
    m.stop ≤ n.start := by
  by_contra hinside
  rcases h.eq_colon_or hlabel hlt (by omega) h'.getElem?_start with hplus | hplus
  · exact absurd hplus (by decide)
  · exact absurd hplus (by decide)

/-- A marker of a label is determined by its start. -/
theorem Marker.StandsIn.eq_of_start_eq (h : m.StandsIn query label) (h' : n.StandsIn query label)
    (hstart : m.start = n.start) : m = n := by
  have hsame : query.drop m.stop = query.drop n.stop := by
    have hfollows := h.follows
    rw [hstart, h'.follows] at hfollows
    exact (Option.some.inj hfollows).symm
  have hlength := congrArg List.length hsame
  rw [List.length_drop, List.length_drop] at hlength
  have hm := h.stop_le
  have hn := h'.stop_le
  cases m
  cases n
  rw [Marker.mk.injEq]
  exact ⟨hstart, by simp only at *; omega⟩

/-- A marker that stands in the query is not missed by a search that begins in front of it. -/
theorem Marker.StandsIn.mem_labelMarkersFrom (hlabel : IsLabel label) (h : m.StandsIn query label)
    {t : Text} {pos : Nat} (ht : query.drop pos = t) (hpos : pos ≤ m.start) :
    m ∈ labelMarkersFrom label pos t := by
  induction t using marker_induction label generalizing pos with
  | nil =>
    have hle := h.stop_le
    have hlt := h.start_lt_stop
    rw [List.drop_eq_nil_iff] at ht
    omega
  | marker t beyond hmarker ih =>
    obtain ⟨stop, hstop, hstands, hmarkers⟩ := labelMarkersFrom_marker ht hmarker
    rw [hmarkers]
    rcases Nat.eq_or_lt_of_le hpos with hsame | hlt
    · rw [hstands.eq_of_start_eq h hsame]
      exact List.mem_cons_self
    · -- the search goes on behind the marker it has found, which does not overlap with this one
      exact List.mem_cons_of_mem _ (ih hstop (hstands.stop_le_start hlabel h hlt))
  | other c rest hnone ih =>
    rw [labelMarkersFrom_other pos hnone]
    refine ih (drop_succ_of_drop_eq_cons ht) (Nat.lt_of_le_of_ne hpos fun hsame => ?_)
    have hfollows := h.follows
    rw [← hsame, ht, hnone] at hfollows
    cases hfollows

end Standing

/-- **The markers that are read are those that stand in the query.** -/
theorem mem_labelMarkers_iff {query label : Text} (hlabel : IsLabel label) {m : Marker} :
    m ∈ labelMarkers query label ↔ m.StandsIn query label :=
  ⟨standsIn_of_mem_labelMarkersFrom List.drop_zero,
    fun h => h.mem_labelMarkersFrom hlabel List.drop_zero (Nat.zero_le _)⟩

/-- Wherever the label is matched, a marker is read. -/
theorem exists_mem_labelMarkers {query label beyond : Text} (hlabel : IsLabel label) {i : Nat}
    (h : afterLabel? label (query.drop i) = some beyond) :
    ∃ m ∈ labelMarkers query label, m.start = i := by
  obtain ⟨stop, -, hstands, -⟩ := labelMarkersFrom_marker rfl h
  exact ⟨⟨i, stop⟩, (mem_labelMarkers_iff hlabel).mpr hstands, rfl⟩

/-! ## Markers of any label -/

/-- The text begins with a marker: a plus sign and a colon, and between them at least one character
and none that ends labels. -/
def BeginsMarker (t : Text) : Prop :=
  ∃ l beyond, t = '+' :: (l ++ ':' :: beyond) ∧ l ≠ [] ∧ ∀ c ∈ l, endsLabel c = false

/-- The test for a marker. -/
theorem isSome_afterMarker?_iff {t : Text} : (afterMarker? t).isSome = true ↔ BeginsMarker t := by
  rw [Option.isSome_iff_exists, BeginsMarker]
  simp only [afterMarker?_eq_some_iff]
  exact ⟨fun ⟨beyond, l, h⟩ => ⟨l, beyond, h⟩, fun ⟨l, beyond, h⟩ => ⟨beyond, l, h⟩⟩

/-- A marker stays one when the text goes on. -/
theorem BeginsMarker.append {t : Text} (h : BeginsMarker t) (s : Text) : BeginsMarker (t ++ s) := by
  obtain ⟨l, beyond, rfl, hne, hl⟩ := h
  exact ⟨l, beyond ++ s, by simp, hne, hl⟩

/-- A marker of a label is a marker. -/
theorem Marker.StandsIn.beginsMarker {query label : Text} {m : Marker} (hlabel : IsLabel label)
    (h : m.StandsIn query label) : BeginsMarker (query.drop m.start) :=
  isSome_afterMarker?_iff.mp (isSome_afterMarker?_of_afterLabel? hlabel h.follows)

/-- **The next marker is the first one**: none begins in front of it, and it is a marker, unless it
is the end of the text. -/
theorem nextMarker_spec (t : Text) :
    (∀ i < nextMarker t, ¬ BeginsMarker (t.drop i)) ∧
      (nextMarker t = t.length ∨ BeginsMarker (t.drop (nextMarker t))) := by
  induction t with
  | nil => exact ⟨fun i hi => absurd hi (Nat.not_lt_zero i), Or.inl rfl⟩
  | cons c t ih =>
    cases h : (afterMarker? (c :: t)).isSome with
    | true =>
      rw [nextMarker_of_isSome h]
      exact ⟨fun i hi => absurd hi (Nat.not_lt_zero i), Or.inr (isSome_afterMarker?_iff.mp h)⟩
    | false =>
      rw [nextMarker_cons h, List.length_cons, List.drop_succ_cons]
      refine ⟨fun i hi => ?_, ih.2.imp_left (congrArg Nat.succ)⟩
      cases i with
      | zero =>
        intro hbegins
        rw [List.drop_zero, ← isSome_afterMarker?_iff, h] at hbegins
        cases hbegins
      | succ i => exact ih.1 i (Nat.lt_of_succ_lt_succ hi)

/-- What stands in front of the next marker holds none. -/
theorem nextMarker_take {t : Text} {n : Nat} (h : n ≤ nextMarker t) :
    nextMarker (t.take n) = (t.take n).length := by
  refine (nextMarker_spec (t.take n)).2.resolve_right fun hbegins => ?_
  have hlt : nextMarker (t.take n) < n := by
    by_contra hge
    obtain ⟨l, beyond, ht, -⟩ := hbegins
    rw [List.drop_eq_nil_of_le (by rw [List.length_take]; omega)] at ht
    cases ht
  refine (nextMarker_spec t).1 _ (Nat.lt_of_lt_of_le hlt h) ?_
  -- a marker in the front is a marker in the whole text
  have hwhole := hbegins.append (t.drop n)
  rwa [← List.drop_append_of_le_length (nextMarker_le_length _), List.take_append_drop] at hwhole

end CandidateSearch

import CandidateSearch.Proofs.Spelling

/-!
# Labels that validation sees

Validation reads a label up to each colon, from the first plus sign behind the colon before it.
`placedLabels` is that scan with the position of the colon that ends each label.  A marker of a field
ends at a colon too, so the label that validation sees there ends in the name of the field and counts
as known, however far in front of the marker it begins.

* `map_text_placedLabels`: without their positions, the placed labels are the labels of the query;
* `placedLabelsFrom_piece`, `fieldLabels_eq_filterMap`: what the scan finds in the stretch before
  one colon, and in all stretches together;
* `placedLabelsFrom_marker`: the colon behind a marker ends exactly one label;
* `marker_ends_known_label`: that label is known, whatever surrounds the marker.
-/

namespace CandidateSearch

/-! ## Labels with their colons -/

/-- A label, and the position of the colon that ends it. -/
structure PlacedLabel where
  colon : Nat
  text : Text
  deriving DecidableEq, Repr

/-- The labels of a text that begins at position `pos`, each with its colon. -/
def placedLabelsFrom (pos : Nat) (t : Text) : List PlacedLabel :=
  match h : Text.after? '+' t with
  | none => []
  | some rest =>
    match h' : Text.after? ':' rest with
    | none => []
    | some beyond =>
      have := Text.length_of_after? h
      have := Text.length_of_after? h'
      let label := rest.takeWhile (· != ':')
      let colon := pos + (t.takeWhile (· != '+')).length + 1 + label.length
      if label.isEmpty then placedLabelsFrom (colon + 1) beyond
      else ⟨colon, Text.trim label⟩ :: placedLabelsFrom (colon + 1) beyond
  termination_by t.length
  decreasing_by all_goals omega

/-- The labels of a query, each with its colon. -/
def placedLabels (query : Text) : List PlacedLabel := placedLabelsFrom 0 query

/-- One step of the scan: the label between the first plus sign and the next colon. -/
theorem fieldLabels_step {t rest beyond : Text} (h : Text.after? '+' t = some rest)
    (h' : Text.after? ':' rest = some beyond) :
    fieldLabels t
      = if (rest.takeWhile (· != ':')).isEmpty then fieldLabels beyond
        else Text.trim (rest.takeWhile (· != ':')) :: fieldLabels beyond := by
  rw [fieldLabels]
  split
  · next hnone => rw [h] at hnone; cases hnone
  · next r hr =>
    rw [h] at hr
    cases hr
    split
    · next hnone => rw [h'] at hnone; cases hnone
    · next b hb =>
      rw [h'] at hb
      cases hb
      rfl

/-- The scan ends where no colon follows the next plus sign. -/
theorem fieldLabels_eq_nil {t : Text} (h : (Text.after? '+' t).bind (Text.after? ':') = none) :
    fieldLabels t = [] := by
  rw [fieldLabels]
  split
  · rfl
  · next rest hrest =>
    rw [hrest, Option.bind_some] at h
    split
    · rfl
    · next beyond hbeyond => rw [h] at hbeyond; cases hbeyond

/-- Without their colons, the labels are those that validation sees. -/
theorem map_text_placedLabelsFrom (pos : Nat) (t : Text) :
    (placedLabelsFrom pos t).map (·.text) = fieldLabels t := by
  fun_induction placedLabelsFrom pos t with
  | case1 pos t h => rw [fieldLabels_eq_nil (by rw [h]; rfl), List.map_nil]
  | case2 pos t rest h h' => rw [fieldLabels_eq_nil (by rw [h]; exact h'), List.map_nil]
  | case3 pos t rest h beyond h' _ _ label colon hempty ih =>
    rw [fieldLabels_step h h', if_pos hempty, ih]
  | case4 pos t rest h beyond h' _ _ label colon hempty ih =>
    rw [fieldLabels_step h h', if_neg hempty, List.map_cons, ih]

/-- Without their colons, the labels of a query are those that validation sees. -/
theorem map_text_placedLabels (query : Text) :
    (placedLabels query).map (·.text) = fieldLabels query :=
  map_text_placedLabelsFrom 0 query

section Scan

variable (pos : Nat) {before label : Text}

/-- A text without a plus sign holds no label. -/
theorem placedLabelsFrom_of_not_mem {t : Text} (h : '+' ∉ t) : placedLabelsFrom pos t = [] := by
  rw [placedLabelsFrom]
  split
  · rfl
  · next rest hrest =>
    rw [Text.after?_eq_none_iff.mpr h] at hrest
    cases hrest

/-- A label that no colon ends does not count. -/
theorem placedLabelsFrom_open (hbefore : '+' ∉ before) (hlabel : ':' ∉ label) :
    placedLabelsFrom pos (before ++ '+' :: label) = [] := by
  rw [placedLabelsFrom]
  split
  · rfl
  · next rest hrest =>
    rw [Text.after?_append_cons label hbefore] at hrest
    cases hrest
    split
    · rfl
    · next beyond hbeyond =>
      rw [Text.after?_eq_none_iff.mpr hlabel] at hbeyond
      cases hbeyond

/-- A text without a colon holds no label. -/
theorem placedLabelsFrom_of_colon_not_mem {t : Text} (h : ':' ∉ t) :
    placedLabelsFrom pos t = [] := by
  cases hplus : Text.after? '+' t with
  | none => exact placedLabelsFrom_of_not_mem pos (Text.after?_eq_none_iff.mp hplus)
  | some label =>
    obtain ⟨before, hbefore, rfl⟩ := Text.after?_eq_some hplus
    apply placedLabelsFrom_open pos hbefore
    intro hmem
    exact h (List.mem_append_right _ (List.mem_cons_of_mem _ hmem))

/-- The first label stands between the first plus sign and the next colon, unless it is empty. -/
theorem placedLabelsFrom_label (hbefore : '+' ∉ before) (hlabel : ':' ∉ label) (beyond : Text) :
    placedLabelsFrom pos (before ++ '+' :: (label ++ ':' :: beyond))
      = (if label.isEmpty then [] else [⟨pos + before.length + 1 + label.length, label.trim⟩])
        ++ placedLabelsFrom (pos + before.length + 1 + label.length + 1) beyond := by
  rw [placedLabelsFrom]
  split
  · next hnone =>
    rw [Text.after?_append_cons _ hbefore] at hnone
    cases hnone
  · next rest hrest =>
    rw [Text.after?_append_cons _ hbefore] at hrest
    cases hrest
    split
    · next hnone =>
      rw [Text.after?_append_cons _ hlabel] at hnone
      cases hnone
    · next b hb =>
      rw [Text.after?_append_cons _ hlabel] at hb
      cases hb
      rw [Text.takeWhile_ne_append_cons _ hbefore, Text.takeWhile_ne_append_cons _ hlabel]
      show (if label.isEmpty then _ else _) = _
      split_ifs <;> rfl

end Scan

/-- A text without a plus sign holds no label. -/
theorem fieldLabels_of_not_mem {t : Text} (h : '+' ∉ t) : fieldLabels t = [] := by
  rw [← map_text_placedLabelsFrom 0, placedLabelsFrom_of_not_mem 0 h, List.map_nil]

/-- The first label of a query stands between its first plus sign and the next colon. -/
theorem fieldLabels_append_label {before label : Text} (hbefore : '+' ∉ before) (hne : label ≠ [])
    (hlabel : ':' ∉ label) (beyond : Text) :
    fieldLabels (before ++ '+' :: (label ++ ':' :: beyond)) = label.trim :: fieldLabels beyond := by
  rw [← map_text_placedLabelsFrom 0, placedLabelsFrom_label 0 hbefore hlabel,
    if_neg (by simpa using hne), List.map_append, map_text_placedLabelsFrom]
  rfl

/-! ## The stretch before one colon -/

/-- **Induction along the colons of a text.** -/
theorem colon_induction {motive : Text → Prop} (last : ∀ p, ':' ∉ p → motive p)
    (colon : ∀ p rest, ':' ∉ p → motive rest → motive (p ++ ':' :: rest)) (t : Text) :
    motive t := by
  cases h : Text.after? ':' t with
  | none => exact last t (Text.after?_eq_none_iff.mp h)
  | some rest =>
    have hlen := Text.length_of_after? h
    obtain ⟨p, hp, ht⟩ := Text.after?_eq_some h
    rw [ht]
    exact colon p rest hp (colon_induction last colon rest)
  termination_by t.length

/-- The label of a stretch that a colon ends: what follows its first plus sign, if anything does. -/
def labelOf? (piece : Text) : Option Text :=
  match Text.after? '+' piece with
  | none => none
  | some label => if label.isEmpty then none else some label.trim

/-- A stretch without a plus sign is passed over. -/
theorem placedLabelsFrom_append (pos : Nat) {a : Text} (t : Text) (h : '+' ∉ a) :
    placedLabelsFrom pos (a ++ t) = placedLabelsFrom (pos + a.length) t := by
  cases hplus : Text.after? '+' t with
  | none =>
    have ht := Text.after?_eq_none_iff.mp hplus
    have hboth : '+' ∉ a ++ t := List.not_mem_append h ht
    rw [placedLabelsFrom_of_not_mem _ hboth, placedLabelsFrom_of_not_mem _ ht]
  | some rest =>
    obtain ⟨before, hbefore, rfl⟩ := Text.after?_eq_some hplus
    -- the first plus sign of both together is that of the second text
    have hboth : '+' ∉ a ++ before := List.not_mem_append h hbefore
    rw [← List.append_assoc]
    cases hcolon : Text.after? ':' rest with
    | none =>
      have hrest := Text.after?_eq_none_iff.mp hcolon
      rw [placedLabelsFrom_open _ hboth hrest, placedLabelsFrom_open _ hbefore hrest]
    | some beyond =>
      obtain ⟨label, hlabel, rfl⟩ := Text.after?_eq_some hcolon
      have hlength : pos + (a ++ before).length = pos + a.length + before.length := by
        rw [List.length_append, Nat.add_assoc]
      rw [placedLabelsFrom_label _ hboth hlabel, placedLabelsFrom_label _ hbefore hlabel, hlength]

/-- **What the scan finds in the stretch before one colon**: at most one label, which that colon
ends. -/
theorem placedLabelsFrom_piece (pos : Nat) {piece : Text} (rest : Text) (h : ':' ∉ piece) :
    placedLabelsFrom pos (piece ++ ':' :: rest)
      = ((labelOf? piece).map fun text => ⟨pos + piece.length, text⟩).toList
        ++ placedLabelsFrom (pos + piece.length + 1) rest := by
  unfold labelOf?
  cases hplus : Text.after? '+' piece with
  | none =>
    -- no label begins, so the stretch is passed over together with its colon
    have hnone : '+' ∉ piece ++ [':'] :=
      List.not_mem_append (Text.after?_eq_none_iff.mp hplus) (by decide)
    have hsplit : piece ++ ':' :: rest = (piece ++ [':']) ++ rest := by
      rw [List.append_assoc, List.singleton_append]
    rw [hsplit, placedLabelsFrom_append _ _ hnone, List.length_append, ← Nat.add_assoc]
    rfl
  | some label =>
    obtain ⟨before, hbefore, rfl⟩ := Text.after?_eq_some hplus
    have hlabel : ':' ∉ label := fun hmem =>
      h (List.mem_append_right _ (List.mem_cons_of_mem _ hmem))
    have hlength : pos + (before ++ '+' :: label).length
        = pos + before.length + 1 + label.length := by
      rw [List.length_append, List.length_cons]
      omega
    rw [List.append_assoc, List.cons_append, placedLabelsFrom_label _ hbefore hlabel, hlength]
    congr 1
    show _ = (Option.map _ (if label.isEmpty then none else some label.trim)).toList
    split_ifs <;> rfl

/-- The stretches of a text that colons end, each without its colon. -/
def stretches (t : Text) : List Text := (t.splitOn ':').dropLast

/-- A text without a colon has no such stretch. -/
theorem stretches_of_not_mem {t : Text} (h : ':' ∉ t) : stretches t = [] := by
  rw [stretches, List.splitOn_eq_singleton h]
  rfl

/-- The stretch before the first colon comes first. -/
theorem stretches_append_colon {piece : Text} (rest : Text) (h : ':' ∉ piece) :
    stretches (piece ++ ':' :: rest) = piece :: stretches rest := by
  rw [stretches, List.splitOn_append_cons_self_of_not_mem h,
    List.dropLast_cons_of_ne_nil (List.splitOn_ne_nil _ _), stretches]

/-- **The labels of a query, from its stretches**: each stretch has one label at most. -/
theorem fieldLabels_eq_filterMap (t : Text) : fieldLabels t = (stretches t).filterMap labelOf? := by
  induction t using colon_induction with
  | last piece hpiece =>
    rw [← map_text_placedLabelsFrom 0, placedLabelsFrom_of_colon_not_mem 0 hpiece,
      stretches_of_not_mem hpiece, List.map_nil, List.filterMap_nil]
  | colon piece rest hpiece ih =>
    rw [← map_text_placedLabelsFrom 0, placedLabelsFrom_piece 0 rest hpiece, List.map_append,
      map_text_placedLabelsFrom, ih, stretches_append_colon rest hpiece, List.filterMap_cons]
    cases labelOf? piece <;> rfl

/-- No label is found before the text begins. -/
theorem le_colon_of_mem {pos : Nat} {t : Text} {p : PlacedLabel} (h : p ∈ placedLabelsFrom pos t) :
    pos ≤ p.colon := by
  induction t using colon_induction generalizing pos with
  | last piece hpiece =>
    rw [placedLabelsFrom_of_colon_not_mem _ hpiece] at h
    cases h
  | colon piece rest hpiece ih =>
    rw [placedLabelsFrom_piece _ _ hpiece, List.mem_append] at h
    rcases h with h | h
    · rw [Option.mem_toList, Option.map_eq_some_iff] at h
      obtain ⟨text, -, rfl⟩ := h
      exact Nat.le_add_right pos piece.length
    · have hrest := ih h
      omega

/-- The label of a stretch that ends in a marker ends in the label of the marker. -/
theorem labelOf?_append {l : Text} (front : Text) (hne : l ≠ []) :
    ∃ u, labelOf? (front ++ '+' :: l) = some (Text.trim (u ++ l)) := by
  cases hplus : Text.after? '+' front with
  | none =>
    refine ⟨[], ?_⟩
    unfold labelOf?
    rw [Text.after?_append_cons l (Text.after?_eq_none_iff.mp hplus)]
    show (if l.isEmpty then none else some l.trim) = _
    rw [if_neg (by simpa using hne), List.nil_append]
  | some b =>
    -- the label begins at an earlier plus sign and holds that of the marker
    obtain ⟨a, ha, rfl⟩ := Text.after?_eq_some hplus
    refine ⟨b ++ ['+'], ?_⟩
    unfold labelOf?
    rw [List.append_assoc, List.cons_append, Text.after?_append_cons _ ha]
    show (if (b ++ '+' :: l).isEmpty then none else some (Text.trim (b ++ '+' :: l))) = _
    rw [if_neg (by simp), List.append_assoc, List.singleton_append]

/-- **The colon behind a marker ends exactly one label**, which ends in the label of the marker. -/
theorem placedLabelsFrom_marker (pos : Nat) (front : Text) {l : Text} (rest : Text) (hne : l ≠ [])
    (hcolon : ':' ∉ l) :
    ∃ before u after,
      placedLabelsFrom pos (front ++ '+' :: (l ++ ':' :: rest))
        = before ++ ⟨pos + front.length + 1 + l.length, Text.trim (u ++ l)⟩ :: after ∧
      (∀ p ∈ before, p.colon < pos + front.length + 1 + l.length) ∧
      ∀ p ∈ after, pos + front.length + 1 + l.length < p.colon := by
  induction front using colon_induction generalizing pos with
  | last piece hpiece =>
    -- no colon stands between the last one and the marker, so one stretch holds the whole marker
    have hwhole : ':' ∉ piece ++ '+' :: l := by
      rw [List.mem_append, List.mem_cons, not_or, not_or]
      exact ⟨hpiece, by decide, hcolon⟩
    have hsplit : piece ++ '+' :: (l ++ ':' :: rest) = (piece ++ '+' :: l) ++ ':' :: rest := by
      rw [List.append_assoc, List.cons_append]
    have hlength : pos + (piece ++ '+' :: l).length = pos + piece.length + 1 + l.length := by
      rw [List.length_append, List.length_cons]
      omega
    obtain ⟨u, hu⟩ := labelOf?_append piece hne
    refine ⟨[], u, placedLabelsFrom (pos + piece.length + 1 + l.length + 1) rest, ?_, ?_, ?_⟩
    · rw [hsplit, placedLabelsFrom_piece _ _ hwhole, hu, hlength]
      rfl
    · intro p hp
      cases hp
    · intro p hp
      exact le_colon_of_mem hp
  | colon piece front hpiece ih =>
    obtain ⟨before, u, after, hlabels, hbefore, hafter⟩ := ih (pos + piece.length + 1)
    have hlength : pos + (piece ++ ':' :: front).length + 1 + l.length
        = pos + piece.length + 1 + front.length + 1 + l.length := by
      rw [List.length_append, List.length_cons]
      omega
    -- what the first stretch holds comes in front of what is found behind its colon
    rw [hlength, List.append_assoc, List.cons_append, placedLabelsFrom_piece _ _ hpiece, hlabels]
    refine ⟨((labelOf? piece).map fun text => ⟨pos + piece.length, text⟩).toList ++ before, u, after,
      ?_, ?_, hafter⟩
    · rw [List.append_assoc]
    · intro p hp
      rcases List.mem_append.mp hp with hp | hp
      · rw [Option.mem_toList, Option.map_eq_some_iff] at hp
        obtain ⟨text, -, rfl⟩ := hp
        show pos + piece.length < _
        omega
      · exact hbefore p hp

/-! ## Labels that count as unknown -/

/-- The defect is that a field is unknown. -/
def Defect.isUnknownField : Defect → Bool
  | .unknownField _ => true
  | _ => false

/-- The labels of a query that count as unknown, each with its colon. -/
def unknownLabels (query : Text) : List PlacedLabel :=
  (placedLabels query).filter fun p => !mentionsField p.text

/-- **The unknown fields of a query** are one for each of these labels, in order. -/
theorem unknownFields_examine (query : Text) :
    (examine query).defects.filter Defect.isUnknownField
      = (unknownLabels query).map fun p => .unknownField p.text := by
  -- the counts of parentheses and quotes report defects of other kinds
  have hcounts : ∀ (b : Bool) (d : Defect), d.isUnknownField = false →
      (if b then [] else [d]).filter Defect.isUnknownField = [] := by
    intro b d hd
    cases b
    · show [d].filter Defect.isUnknownField = []
      rw [List.filter_cons_of_neg (by simp [hd]), List.filter_nil]
    · rfl
  have hall : ∀ ts : List Text,
      (ts.map Defect.unknownField).filter Defect.isUnknownField = ts.map Defect.unknownField := by
    intro ts
    rw [List.filter_eq_self]
    intro d hd
    obtain ⟨t, -, rfl⟩ := List.mem_map.mp hd
    rfl
  show (defectsOf query).filter Defect.isUnknownField = _
  unfold defectsOf unknownLabels
  rw [List.filter_append, List.filter_append, hcounts _ _ rfl, hcounts _ _ rfl, hall,
    ← map_text_placedLabels, List.filter_map, List.map_map]
  rfl

/-- The colon at a position ends exactly one label, which ends in `l` and is known. -/
structure EndsKnownLabel (query l : Text) (colon : Nat) : Prop where
  /-- One label has this colon; it ends in `l` and mentions a field. -/
  label : ∃ text, (placedLabels query).filter (·.colon == colon) = [⟨colon, text⟩] ∧
    l <:+ text ∧ mentionsField text = true
  /-- No unknown field is reported for this colon. -/
  known : ∀ p ∈ unknownLabels query, p.colon ≠ colon

/-- No label is left at a colon that ends none. -/
theorem filter_colon_eq_nil {labels : List PlacedLabel} {colon : Nat}
    (h : ∀ p ∈ labels, p.colon ≠ colon) : labels.filter (·.colon == colon) = [] := by
  rw [List.filter_eq_nil_iff]
  intro p hp
  rw [beq_iff_eq]
  exact h p hp

/-- **The colon behind a marker ends a known label**, whatever stands around the marker. -/
theorem endsKnownLabel_marker (front rest : Text) {l : Text} {f : Field} (hl : Spells l f.label) :
    EndsKnownLabel (front ++ '+' :: (l ++ ':' :: rest)) l (front.length + 1 + l.length) := by
  have hcolon : ':' ∉ l := fun hmem => (hl.ascii hmem).2 rfl
  obtain ⟨before, u, after, hlabels, hbefore, hafter⟩ :=
    placedLabelsFrom_marker 0 front rest hl.ne_nil hcolon
  rw [Nat.zero_add, hl.trim_append, ← placedLabels] at hlabels
  rw [Nat.zero_add] at hbefore hafter
  have hearlier : ∀ p ∈ before, p.colon ≠ front.length + 1 + l.length := fun p hp =>
    (hbefore p hp).ne
  have hlater : ∀ p ∈ after, p.colon ≠ front.length + 1 + l.length := fun p hp =>
    (hafter p hp).ne'
  have hknown := hl.mentionsField u.trimStart
  constructor
  · refine ⟨u.trimStart ++ l, ?_, List.suffix_append _ _, hknown⟩
    rw [hlabels, List.filter_append, filter_colon_eq_nil hearlier,
      List.filter_cons_of_pos (by simp), filter_colon_eq_nil hlater, List.nil_append]
  · intro p hp
    obtain ⟨hmem, hunknown⟩ := List.mem_filter.mp hp
    rw [hlabels, List.mem_append, List.mem_cons] at hmem
    rcases hmem with hmem | rfl | hmem
    · exact hearlier p hmem
    · -- the label at this colon is known, so it is not among the unknown ones
      rw [hknown] at hunknown
      cases hunknown
    · exact hlater p hmem

/-- **Validation never calls unknown a field that is read.**  The labels with their colons are those
that validation sees, and unknown fields are reported for some of them.  The colon behind the name of
a field after a plus sign, in any mix of capitals and small letters of ASCII, ends exactly one label,
which ends in that name and is known; and so does the colon of every marker of a field that is read,
if it is written in ASCII. -/
theorem marker_ends_known_label (query : Text) :
    (placedLabels query).map (·.text) = fieldLabels query ∧
      (examine query).defects.filter Defect.isUnknownField
        = (unknownLabels query).map (fun p => .unknownField p.text) ∧
      (∀ (f : Field) (front l rest : Text), query = front ++ '+' :: (l ++ ':' :: rest) →
        Spells l f.label → EndsKnownLabel query l (front.length + 1 + l.length)) ∧
      ∀ (f : Field), ∀ m ∈ labelMarkers query f.label,
        (∀ c ∈ m.spelling query f.label, c.toNat < 128) →
          EndsKnownLabel query (m.spelling query f.label) (m.start + 1 + f.label.length) := by
  refine ⟨map_text_placedLabels query, unknownFields_examine query, ?_, ?_⟩
  · rintro f front l rest rfl hl
    exact endsKnownLabel_marker front rest hl
  · intro f m hm hascii
    obtain ⟨front, rest, hquery, hfront, hlength, hl⟩ := spells_of_mem_labelMarkers hm hascii
    have hends := endsKnownLabel_marker front rest hl
    rwa [← hquery, hfront, hlength] at hends

/-- A query with plus signs and colons around its markers, one of which stands behind a plus sign
that is no marker. -/
def crowdedQuery : Text := "C++ dev +:, +jOB Title:x +a:b +LOCATION:y".toList

/-- The markers of the crowded query end known labels. -/
theorem marker_ends_known_label_crowdedQuery :
    EndsKnownLabel crowdedQuery "jOB Title".toList 22 ∧
      EndsKnownLabel crowdedQuery "LOCATION".toList 39 ∧
      fieldLabels crowdedQuery
        = ["+ dev +".toList, "jOB Title".toList, "a".toList, "LOCATION".toList] := by
  obtain ⟨-, -, hmarkers, hread⟩ := marker_ends_known_label crowdedQuery
  refine ⟨?_, ?_, by decide +kernel⟩
  · exact hmarkers (.list .jobTitle) "C++ dev +:, ".toList "jOB Title".toList
      "x +a:b +LOCATION:y".toList (by decide +kernel) (by decide +kernel)
  · exact hread (.list .location) ⟨30, 40⟩ (by decide +kernel)
      (Text.forall_mem_of_all (by decide +kernel))

end CandidateSearch

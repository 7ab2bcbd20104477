import CandidateSearch.Proofs.Labels

/-!
# Where labels end

The scan for labels jumps from a plus sign to the next colon and goes on behind it.  What it finds
can be said without a scan: each colon ends a stretch of the query, and each stretch has at most one
label, the text behind its first plus sign.

* `labelOf?_eq_some_iff`: the label of one stretch;
* `placedLabelsFrom_eq_filterMap`: the labels of a text, from its stretches and its colons;
* `map_colon_sublist`: each colon ends one label at most;
* `unknownFields_validate`: the unknown fields that validation reports;
* `labels_at_colons`: all of this for a whole query.
-/

namespace CandidateSearch

/-! ## The label of one stretch -/

/-- **The label of a stretch** is what follows its first plus sign, trimmed, if anything follows. -/
theorem labelOf?_eq_some_iff {piece text : Text} :
    labelOf? piece = some text ↔
      ∃ before label : Text, piece = before ++ '+' :: label ∧ '+' ∉ before ∧ label ≠ [] ∧
        text = label.trim := by
  constructor
  · intro h
    unfold labelOf? at h
    cases hplus : Text.after? '+' piece with
    | none =>
      rw [hplus] at h
      cases h
    | some label =>
      obtain ⟨before, hbefore, hpiece⟩ := Text.after?_eq_some hplus
      rw [hplus] at h
      by_cases hempty : label = []
      · simp [hempty] at h
      · simp only [List.isEmpty_iff, if_neg hempty, Option.some.injEq] at h
        exact ⟨before, label, hpiece, hbefore, hempty, h.symm⟩
  · rintro ⟨before, label, rfl, hbefore, hlabel, rfl⟩
    unfold labelOf?
    rw [Text.after?_append_cons label hbefore]
    show (if label.isEmpty then none else some label.trim) = _
    rw [if_neg (by simpa using hlabel)]

/-! ## Stretches with their colons -/

/-- The stretches of a text that begins at position `pos`, each with the position of the colon that
ends it. -/
def placedStretchesFrom (pos : Nat) (t : Text) : List (Nat × Text) :=
  (t.idxsOf ':' pos).zip (stretches t)

/-- The label of a stretch, with the colon that ends both. -/
def placedLabel? (stretch : Nat × Text) : Option PlacedLabel :=
  (labelOf? stretch.2).map fun text => ⟨stretch.1, text⟩

section Stretches

variable (pos : Nat) {piece : Text}

/-- Without a colon there is no stretch. -/
theorem placedStretchesFrom_of_not_mem {t : Text} (h : ':' ∉ t) :
    placedStretchesFrom pos t = [] := by
  rw [placedStretchesFrom, stretches_of_not_mem h, List.zip_nil_right]

/-- The first stretch ends at the first colon. -/
theorem placedStretchesFrom_append_colon (rest : Text) (h : ':' ∉ piece) :
    placedStretchesFrom pos (piece ++ ':' :: rest)
      = (pos + piece.length, piece) :: placedStretchesFrom (pos + piece.length + 1) rest := by
  have hnone : piece.idxsOf ':' pos = [] := by
    rw [List.idxsOf_eq_nil_iff]
    intro c hc
    rw [beq_eq_false_iff_ne]
    exact fun hcolon => h (hcolon ▸ hc)
  rw [placedStretchesFrom, stretches_append_colon rest h, List.idxsOf_append, hnone,
    List.nil_append, List.idxsOf_cons, if_pos (by simp), List.zip_cons_cons, placedStretchesFrom]

end Stretches

/-- **The labels of a text, from its stretches**: the scan finds the label of each stretch, in
order, at the colon that ends the stretch. -/
theorem placedLabelsFrom_eq_filterMap (pos : Nat) (t : Text) :
    placedLabelsFrom pos t = (placedStretchesFrom pos t).filterMap placedLabel? := by
  induction t using colon_induction generalizing pos with
  | last piece hpiece =>
    rw [placedLabelsFrom_of_colon_not_mem _ hpiece, placedStretchesFrom_of_not_mem _ hpiece,
      List.filterMap_nil]
  | colon piece rest hpiece ih =>
    rw [placedLabelsFrom_piece _ _ hpiece, placedStretchesFrom_append_colon _ _ hpiece, ih,
      List.filterMap_cons, placedLabel?]
    cases labelOf? piece <;> rfl

/-- A text has one stretch for each of its colons. -/
theorem length_stretches (t : Text) : (stretches t).length = t.count ':' := by
  induction t using colon_induction with
  | last piece hpiece =>
    rw [stretches_of_not_mem hpiece, List.count_eq_zero_of_not_mem hpiece, List.length_nil]
  | colon piece rest hpiece ih =>
    rw [stretches_append_colon rest hpiece, List.length_cons, ih, List.count_append,
      List.count_eq_zero_of_not_mem hpiece, List.count_cons_self, Nat.zero_add]

/-- The labels of some stretches end at colons of different stretches. -/
theorem map_colon_filterMap_sublist (ss : List (Nat × Text)) :
    ((ss.filterMap placedLabel?).map (·.colon)).Sublist (ss.map (·.1)) := by
  induction ss with
  | nil => exact List.Sublist.slnil
  | cons s ss ih =>
    rw [List.filterMap_cons, List.map_cons, placedLabel?]
    cases labelOf? s.2 with
    | none => exact ih.cons s.1
    | some text => exact ih.cons_cons s.1

/-- **Each colon ends one label at most**: the colons of the labels are some of the colons of the
query, in order. -/
theorem map_colon_sublist (query : Text) :
    ((placedLabels query).map (·.colon)).Sublist (query.idxsOf ':') := by
  have hlength : (query.idxsOf ':').length ≤ (stretches query).length := by
    rw [List.length_idxsOf, length_stretches]
  have hcolons : (placedStretchesFrom 0 query).map (·.1) = query.idxsOf ':' :=
    List.map_fst_zip hlength
  rw [placedLabels, placedLabelsFrom_eq_filterMap, ← hcolons]
  exact map_colon_filterMap_sublist _

/-! ## Unknown fields -/

/-- The message says that a field is unknown. -/
def saysUnknownField (message : Text) : Bool := "Unknown field: ".toList.isPrefixOf message

/-- The messages tell unknown fields from the other defects. -/
theorem saysUnknownField_message (d : Defect) :
    saysUnknownField d.message = d.isUnknownField := by
  cases d with
  | unmatchedParentheses => rfl
  | unmatchedQuotes => rfl
  | unknownField label =>
    show saysUnknownField ("Unknown field: ".toList ++ label) = true
    rw [saysUnknownField, List.isPrefixOf_iff_prefix]
    exact List.prefix_append _ label

/-- **The unknown fields that validation reports**: one for each label that mentions no field, in
order. -/
theorem unknownFields_validate (query : Text) :
    (validate query).errors.filter saysUnknownField
      = ((fieldLabels query).filter (!mentionsField ·)).map ("Unknown field: ".toList ++ ·) := by
  have hlabels : (unknownLabels query).map (·.text)
      = (fieldLabels query).filter (!mentionsField ·) := by
    rw [← map_text_placedLabels, List.filter_map]
    rfl
  have hfilter : saysUnknownField ∘ Defect.message = Defect.isUnknownField :=
    funext saysUnknownField_message
  show ((examine query).defects.map Defect.message).filter saysUnknownField = _
  rw [List.filter_map, hfilter, unknownFields_examine, ← hlabels, List.map_map, List.map_map]
  rfl

/-! ## Whole queries -/

/-- **The labels of a query.**  Cut the query at its colons and drop the last piece: the labels are
those of the other pieces, in order.  The label of a piece ends at the colon that the piece was cut
at, so no colon ends two of them.  Validation reports one unknown field for each label that mentions
no field, in the same order. -/
theorem labels_at_colons (query : Text) :
    fieldLabels query = (query.splitOn ':').dropLast.filterMap labelOf? ∧
      (∀ piece text, labelOf? piece = some text ↔
        ∃ before label : Text, piece = before ++ '+' :: label ∧ '+' ∉ before ∧ label ≠ [] ∧
          text = label.trim) ∧
      (placedLabels query).map (·.text) = fieldLabels query ∧
      placedLabels query
        = ((query.idxsOf ':').zip (query.splitOn ':').dropLast).filterMap placedLabel? ∧
      ((placedLabels query).map (·.colon)).Sublist (query.idxsOf ':') ∧
      (validate query).errors.filter saysUnknownField
        = (((query.splitOn ':').dropLast.filterMap labelOf?).filter (!mentionsField ·)).map
            ("Unknown field: ".toList ++ ·) := by
  have hlabels := fieldLabels_eq_filterMap query
  refine ⟨hlabels, fun _ _ => labelOf?_eq_some_iff, map_text_placedLabels query,
    placedLabelsFrom_eq_filterMap 0 query, map_colon_sublist query, ?_⟩
  rw [unknownFields_validate, hlabels, stretches]

/-- A plus sign right in front of a colon begins no label, and of several plus signs only the first
one counts. -/
example : fieldLabels "+:+a::b++ c:+d".toList = ["a".toList, "+ c".toList] := by decide +kernel

end CandidateSearch

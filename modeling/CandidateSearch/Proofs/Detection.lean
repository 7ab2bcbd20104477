import CandidateSearch.Proofs.Clauses
import CandidateSearch.Query.Record

/-!
# Telling structured queries from free text

A query counts as structured as soon as it holds the marker of some field.  Every reader looks for
these markers, so a text without them is read as nothing at all, and a text that holds one still
holds it with other text around it.

* `remainders_eq_nil_iff`: reading finds something exactly if a marker stands in the text;
* `isBooleanQuery_iff`: a query is structured exactly if it holds the marker of a field;
* `parse_of_free`, `remarksOf_of_free`: what parsing and validation make of free text;
* `isBooleanQuery_exact`: all of these together, with the text that may stand around a query.
-/

namespace CandidateSearch

/-! ## Markers somewhere in a text -/

/-- The marker of a label, up to case, stands somewhere in the text. -/
def HoldsMarker (label t : Text) : Prop :=
  ∃ u l r, t = u ++ '+' :: (l ++ ':' :: r) ∧ l.map plainLetter = label.map plainLetter

/-- A marker stays where other text is added on both sides. -/
theorem HoldsMarker.append {label t : Text} (h : HoldsMarker label t) (a b : Text) :
    HoldsMarker label (a ++ t ++ b) := by
  obtain ⟨u, l, r, rfl, hl⟩ := h
  exact ⟨a ++ u, l, r ++ b, by simp, hl⟩

/-- **Reading finds something exactly if a marker stands in the text.** -/
theorem remainders_eq_nil_iff {label t : Text} :
    remainders label t = [] ↔ ¬ HoldsMarker label t := by
  induction t using marker_induction label with
  | nil =>
    refine iff_of_true (remainders_nil label) ?_
    rintro ⟨u, l, r, ht, -⟩
    exact absurd ht (by simp)
  | marker t beyond h ih =>
    obtain ⟨l, r, ht, hl, -⟩ := afterLabel?_eq_some_iff.mp h
    have hmarker : HoldsMarker label t := ⟨[], l, r, ht, hl⟩
    rw [remainders_marker h]
    exact iff_of_false (List.cons_ne_nil _ _) (not_not_intro hmarker)
  | other c rest h ih =>
    have hrest : HoldsMarker label (c :: rest) ↔ HoldsMarker label rest := by
      constructor
      · rintro ⟨u, l, r, ht, hl⟩
        cases u with
        | nil => exact absurd hl (afterLabel?_eq_none_iff.mp h l r ht)
        | cons d u => exact ⟨u, l, r, (List.cons.inj ht).2, hl⟩
      · intro hrest
        have hlong := hrest.append [c] []
        rwa [List.append_nil] at hlong
    rw [remainders_cons h, ih, hrest]

/-- A marker is found exactly if one stands somewhere in the text. -/
theorem isSome_findMarker_iff {query label : Text} :
    (findMarker query label).isSome = true ↔ HoldsMarker label query := by
  rw [Option.isSome_iff_ne_none, Ne, findMarker_eq_none_iff, remainders_eq_nil_iff, not_not]

/-! ## Free text -/

/-- **A query is structured exactly if it holds the marker of a field.** -/
theorem isBooleanQuery_iff {query : Text} :
    isBooleanQuery query = true ↔ ∃ f : Field, HoldsMarker f.label query := by
  rw [isBooleanQuery, List.any_eq_true]
  constructor
  · rintro ⟨f, -, hf⟩
    exact ⟨f, isSome_findMarker_iff.mp hf⟩
  · rintro ⟨f, hf⟩
    exact ⟨f, f.mem_all, isSome_findMarker_iff.mpr hf⟩

/-- In free text nothing follows a marker of any field. -/
theorem isBooleanQuery_eq_false_iff {query : Text} :
    isBooleanQuery query = false ↔ ∀ f : Field, remainders f.label query = [] := by
  rw [← Bool.not_eq_true, isBooleanQuery_iff, not_exists]
  exact forall_congr' fun f => remainders_eq_nil_iff.symm

/-- A label has no clause exactly if nothing follows its markers. -/
theorem clauseContents_eq_nil_iff {query label : Text} :
    clauseContents query label = [] ↔ remainders label query = [] := by
  rw [clauseContents_eq_map, List.map_eq_nil_iff]

section FreeText

variable {query : Text} (h : isBooleanQuery query = false)
include h

/-- Free text has no clause of any list field. -/
theorem clauseContents_of_free (f : ListField) : clauseContents query f.label = [] :=
  clauseContents_eq_nil_iff.mpr (isBooleanQuery_eq_false_iff.mp h (.list f))

/-- Free text has no content for any list field. -/
theorem extractField_of_free (f : ListField) : extractField query f.label = none := by
  rw [extractField, clauseContents_of_free h]
  rfl

/-- Free text gives no value for any time scope. -/
theorem extractScalar_of_free (f : ScopeField) : extractScalar query f.label = none := by
  have hnone : remainders f.label query = [] := isBooleanQuery_eq_false_iff.mp h (.scope f)
  rw [extractScalar_eq_find?, hnone]
  rfl

/-- **Free text is parsed as nothing** but itself. -/
theorem parse_of_free (excludeNegated : Bool) :
    parse query excludeNegated = { rawQuery := query } := by
  simp only [parse, fieldExtraction, extractField_of_free h, extractTimeScope,
    extractScalar_of_free h, Option.map_none]
  rfl

/-- **Free text is remarked on for its labels alone.** -/
theorem remarksOf_of_free :
    remarksOf query = (duplicateFields (fieldLabels query)).map .duplicateField := by
  have hempty : ListField.all.filter (hasEmptyClause query) = [] := by
    rw [List.filter_eq_nil_iff]
    intro f _
    rw [hasEmptyClause, clauseContents_of_free h, List.any_nil]
    decide
  have hscopes : ScopeField.all.filterMap
      (fun f => (unrecognizedScope query f).map (.unrecognizedScope f)) = ([] : List Remark) := by
    rw [List.filterMap_eq_nil_iff]
    intro f _
    rw [unrecognizedScope, extractScalar_of_free h]
    rfl
  rw [remarksOf, hempty, hscopes, List.map_nil, List.append_nil, List.append_nil]

/-- No warning on free text is about an empty value or a time scope. -/
theorem warnings_of_free {warning : Text} (hw : warning ∈ (validate query).warnings) :
    ¬ "Empty value".toList <+: warning ∧ ¬ "Unrecognized time scope".toList <+: warning := by
  obtain ⟨remark, hremark, rfl⟩ := List.mem_map.mp hw
  have hduplicate : remark ∈ (duplicateFields (fieldLabels query)).map .duplicateField := by
    rw [← remarksOf_of_free h]
    exact hremark
  obtain ⟨f, -, rfl⟩ := List.mem_map.mp hduplicate
  -- the words for a field given twice begin with another letter
  constructor <;> exact fun hprefix => absurd (List.cons_prefix_cons.mp hprefix).1 (by decide)

end FreeText

/-- **The gate is exact and monotone.**  A query is free text exactly if it has no clause of any list
field and no marker of any time scope.  Then it is parsed as nothing, it sends the empty object, and
no value in it is remarked on.  A structured query stays structured in the middle of any text. -/
theorem isBooleanQuery_exact (query : Text) :
    (isBooleanQuery query = false ↔
      (∀ f : ListField, clauseContents query f.label = []) ∧
        ∀ f : ScopeField, findMarker query f.label = none) ∧
    (isBooleanQuery query = false →
      (∀ excludeNegated, parse query excludeNegated = { rawQuery := query } ∧
        (compileFilters (parse query excludeNegated)).payload = .object []) ∧
      ∀ warning ∈ (validate query).warnings,
        ¬ "Empty value".toList <+: warning ∧ ¬ "Unrecognized time scope".toList <+: warning) ∧
    (isBooleanQuery query = true → ∀ a b, isBooleanQuery (a ++ query ++ b) = true) := by
  refine ⟨?_, fun h => ⟨fun excludeNegated => ?_, fun _ => warnings_of_free h⟩, fun h a b => ?_⟩
  · rw [isBooleanQuery_eq_false_iff]
    constructor
    · exact fun h => ⟨fun f => clauseContents_eq_nil_iff.mpr (h (.list f)),
        fun f => findMarker_eq_none_iff.mpr (h (.scope f))⟩
    · rintro ⟨hlists, hscopes⟩ (f | f)
      · exact clauseContents_eq_nil_iff.mp (hlists f)
      · exact findMarker_eq_none_iff.mp (hscopes f)
  · rw [parse_of_free h]
    exact ⟨rfl, rfl⟩
  · obtain ⟨f, hf⟩ := isBooleanQuery_iff.mp h
    exact isBooleanQuery_iff.mpr ⟨f, hf.append a b⟩

/-- Labels without markers: one in part, one apart from its plus sign, twice, and one at the end. -/
def almostQuery : Text := "C++ dev: +Locat, + Location:x, + Location:y +Company".toList

/-- A marker with letters that only case folding takes for those of its label, nothing behind. -/
def foldedQuery : Text := "+\u212aeyword\u017f:".toList

/-- Almost a query is none, and a marker alone is found between other markers. -/
theorem isBooleanQuery_exact_almostQuery :
    (isBooleanQuery almostQuery = false ∧ parse almostQuery true = { rawQuery := almostQuery } ∧
      (compileFilters (parse almostQuery true)).payload = .object []) ∧
    isBooleanQuery foldedQuery = true ∧
      isBooleanQuery (almostQuery ++ foldedQuery ++ "(Go".toList) = true := by
  have hfree : isBooleanQuery almostQuery = false := by decide +kernel
  have hfolded : isBooleanQuery foldedQuery = true := by decide +kernel
  exact ⟨⟨hfree, ((isBooleanQuery_exact almostQuery).2.1 hfree).1 true⟩, hfolded,
    (isBooleanQuery_exact foldedQuery).2.2 hfolded almostQuery "(Go".toList⟩

end CandidateSearch

import CandidateSearch.Proofs.Clauses
import CandidateSearch.Query.Record

/-!
# Text in front of a query

Every marker begins with a plus sign, so nothing is read before the first one.  Text without a plus
sign in front of a query moves its markers and clauses and changes none of them: whatever
parentheses, quotes, commas or colons it holds, no search begins inside it.

* `labelMarkers_append`: the markers stand as many characters further on;
* `clauses_append`: so do the clauses, and they say the same;
* `parse_append_of_not_mem_plus`: all that is read, compiled and detected stays.
-/

namespace CandidateSearch

/-! ## Markers -/

/-- A marker so many characters further on. -/
def Marker.shift (k : Nat) (m : Marker) : Marker := ⟨m.start + k, m.stop + k⟩

/-- A text that begins further on has its markers further on. -/
theorem labelMarkersFrom_add (label : Text) (k pos : Nat) (t : Text) :
    labelMarkersFrom label (pos + k) t = (labelMarkersFrom label pos t).map (Marker.shift k) := by
  induction t using marker_induction label generalizing pos with
  | nil => rw [labelMarkersFrom, labelMarkersFrom, List.map_nil]
  | marker t beyond h ih =>
    rw [labelMarkersFrom_of_some _ h, labelMarkersFrom_of_some _ h, List.map_cons, ← ih,
      Nat.add_right_comm]
    rfl
  | other c rest h ih =>
    rw [labelMarkersFrom_other _ h, labelMarkersFrom_other _ h, ← ih, Nat.add_right_comm]

/-- No marker begins in a text without a plus sign. -/
theorem labelMarkersFrom_append (label : Text) {s : Text} (hs : '+' ∉ s) (pos : Nat) (t : Text) :
    labelMarkersFrom label pos (s ++ t) = labelMarkersFrom label (pos + s.length) t := by
  induction s generalizing pos with
  | nil => rfl
  | cons c s ih =>
    rw [List.mem_cons, not_or] at hs
    rw [List.cons_append, labelMarkersFrom_other _ (afterLabel?_cons_ne _ (Ne.symm hs.1)), ih hs.2,
      List.length_cons, Nat.add_right_comm, Nat.add_assoc]

section Front

variable {s : Text} (hs : '+' ∉ s) (query label : Text)

include hs

/-- **The markers of a query are moved** by text in front of it. -/
theorem labelMarkers_append :
    labelMarkers (s ++ query) label = (labelMarkers query label).map (Marker.shift s.length) := by
  rw [labelMarkers, labelMarkersFrom_append label hs, labelMarkersFrom_add, labelMarkers]

/-- A marker is found with the text in front exactly if one is found without it. -/
theorem isSome_findMarker_append :
    (findMarker (s ++ query) label).isSome = (findMarker query label).isSome := by
  rw [findMarker, findMarker, labelMarkers_append hs, List.head?_map, Option.isSome_map,
    Option.isSome_map, Option.isSome_map]

/-! ## Clauses and scalars -/

omit hs in
/-- What stands behind a marker is the same for a query with text in front. -/
theorem drop_append_shift (m : Marker) :
    (s ++ query).drop (m.shift s.length).stop = query.drop m.stop := by
  show (s ++ query).drop (m.stop + s.length) = query.drop m.stop
  rw [Nat.add_comm, List.drop_length_add_append]

/-- **The clauses of a query are moved** by text in front of it, and say the same. -/
theorem clauses_append :
    clauses (s ++ query) label
      = (clauses query label).map fun c => ⟨c.start + s.length, c.body⟩ := by
  rw [clauses, labelMarkers_append hs, clauses, List.map_map, List.map_map]
  refine List.map_congr_left fun m _ => ?_
  simp only [Function.comp, clauseBodyAt_eq_bodyOf, drop_append_shift]
  rfl

/-- The clauses contribute the same texts. -/
theorem clauseContents_append : clauseContents (s ++ query) label = clauseContents query label := by
  rw [clauseContents, clauses_append hs, List.map_map, clauseContents]
  rfl

/-- A field has the same content. -/
theorem extractField_append : extractField (s ++ query) label = extractField query label := by
  rw [extractField, clauseContents_append hs, extractField]

/-- A scalar has the same value. -/
theorem extractScalar_append : extractScalar (s ++ query) label = extractScalar query label := by
  rw [extractScalar, labelMarkers_append hs, List.map_map, extractScalar]
  congr 1
  refine List.map_congr_left fun m _ => ?_
  simp only [Function.comp, scalarAt, drop_append_shift]

end Front

/-! ## Parsed queries -/

/-- A parsed query is the same but for the query itself. -/
theorem parse_append {s : Text} (hs : '+' ∉ s) (query : Text) (excludeNegated : Bool) :
    parse (s ++ query) excludeNegated
      = { parse query excludeNegated with rawQuery := s ++ query } := by
  unfold parse fieldExtraction extractTimeScope
  simp only [extractField_append hs, extractScalar_append hs]

/-- **Text before the first plus sign is inert.**  With a text that holds no plus sign in front of
it, a query has the same clauses for every label, each as many characters further on; it parses to
the same terms, operators and time scopes, compiles to the same payload, and is recognised as a
boolean query as it is without. -/
theorem parse_append_of_not_mem_plus {s : Text} (hs : '+' ∉ s) (query : Text)
    (excludeNegated : Bool) :
    (∀ label, clauses (s ++ query) label
        = (clauses query label).map fun c => ⟨c.start + s.length, c.body⟩) ∧
      parse (s ++ query) excludeNegated
        = { parse query excludeNegated with rawQuery := s ++ query } ∧
      (compileFilters (parse (s ++ query) excludeNegated)).payload
        = (compileFilters (parse query excludeNegated)).payload ∧
      isBooleanQuery (s ++ query) = isBooleanQuery query := by
  have hparse := parse_append hs query excludeNegated
  refine ⟨clauses_append hs query, hparse, ?_, ?_⟩
  · -- the filters are made of the terms alone
    rw [hparse]
    rfl
  · unfold isBooleanQuery
    simp only [isSome_findMarker_append hs]

/-- Text with everything that could be open when the query begins. -/
def openPreamble : Text := "C# dev) (NOT \"senior, Location: ((".toList

/-- The open preamble does not reach into the query behind it. -/
theorem parse_append_openPreamble :
    '+' ∉ openPreamble ∧
      parse (openPreamble ++ "+Company:(\"Acme, Inc.\" NOT Foo) \"".toList) true
        = { terms := { companies := ["Acme, Inc.".toList] }
            operators := { companies := ["NOT".toList] }
            rawQuery := openPreamble ++ "+Company:(\"Acme, Inc.\" NOT Foo) \"".toList } := by
  have hplus : '+' ∉ openPreamble := by decide
  refine ⟨hplus, ?_⟩
  rw [(parse_append_of_not_mem_plus hplus _ true).2.1]
  decide +kernel

end CandidateSearch

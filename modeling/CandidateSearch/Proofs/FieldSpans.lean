import CandidateSearch.Proofs.Highlighting
import CandidateSearch.Proofs.MarkerPlaces
import CandidateSearch.Proofs.Spelling

/-!
# Highlighted markers

Highlighting looks for a marker of any label, the readers of clauses and scalars for markers of the
seven fields, each on its own.  A match that was found further to the left can only hide a marker
from the highlighting if it reaches over the plus sign, and of the three kinds of matches phrases
alone may hold one.

* `Span.StandsIn`: a highlighted stretch is the match that stands at its start;
* `exists_span_or_eq_none`: a position lies in a highlighted stretch, or nothing matches there;
* `Span.WrappedIn`: where the HTML shows a highlighted stretch;
* `Span.ShowsMarker`: a stretch that covers exactly a marker of a label;
* `markers_agree_with_fieldSpans`: the markers that are read and those that are highlighted.
-/

namespace CandidateSearch

/-! ## Highlighted stretches -/

/-- The text that a highlighted stretch covers. -/
def Span.text (s : Span) (query : Text) : Text := query.between s.start s.stop

/-- The label inside a highlighted marker, without plus sign and colon. -/
def Span.label (s : Span) (query : Text) : Text := (s.text query).tail.dropLast

/-- A highlighted stretch of a query: it is the match that stands at its start. -/
structure Span.StandsIn (s : Span) (query : Text) : Prop where
  isMatch : ∃ afterWord, leadingMatch? afterWord (query.drop s.start) = some (s.kind, s.text query)
  stop_eq : s.stop = s.start + (s.text query).length

/-- The stretches of what follows position `pos` stand in the query. -/
theorem standsIn_of_mem_spansFrom {query t : Text} {afterWord : Bool} {pos : Nat} {s : Span}
    (ht : query.drop pos = t) (hs : s ∈ spansFrom pos (segmentsFrom afterWord t)) :
    s.StandsIn query := by
  induction afterWord, t using segment_induction generalizing pos with
  | nil b =>
    rw [segmentsFrom_nil] at hs
    cases hs
  | marked b kind text rest h ih =>
    rw [segmentsFrom_marked b rest h, spansFrom] at hs
    rcases List.mem_cons.mp hs with rfl | hs
    · have htext : Span.text ⟨kind, pos, pos + text.length⟩ query = text :=
        Text.between_add_length ⟨rest, ht.symm⟩
      exact ⟨⟨b, by rw [htext, ht, h]⟩, by rw [htext]⟩
    · refine ih ?_ hs
      rw [← List.drop_drop, ht, List.drop_left]
  | plain b c rest h ih =>
    rw [segmentsFrom_plain b rest h, spansFrom] at hs
    exact ih (drop_succ_of_drop_eq_cons ht) hs

/-- **A position lies in a highlighted stretch, or nothing is highlighted there.** -/
theorem exists_span_or_eq_none {query t : Text} {pos i : Nat} (afterWord : Bool)
    (ht : query.drop pos = t) (hpos : pos ≤ i) (hi : i < query.length) :
    (∃ s ∈ spansFrom pos (segmentsFrom afterWord t), s.start ≤ i ∧ i < s.stop) ∨
      ∃ b, leadingMatch? b (query.drop i) = none := by
  induction afterWord, t using segment_induction generalizing pos with
  | nil b =>
    rw [List.drop_eq_nil_iff] at ht
    omega
  | marked b kind text rest h ih =>
    rw [segmentsFrom_marked b rest h, spansFrom]
    by_cases hin : i < pos + text.length
    · exact Or.inl ⟨_, List.mem_cons_self, hpos, hin⟩
    · have hrest : query.drop (pos + text.length) = rest := by
        rw [← List.drop_drop, ht, List.drop_left]
      refine (ih hrest (by omega)).imp_left ?_
      rintro ⟨s, hs, hcovers⟩
      exact ⟨s, List.mem_cons_of_mem _ hs, hcovers⟩
  | plain b c rest h ih =>
    rw [segmentsFrom_plain b rest h, spansFrom]
    rcases Nat.eq_or_lt_of_le hpos with rfl | hlt
    · exact Or.inr ⟨b, by rw [ht, h]⟩
    · exact ih (drop_succ_of_drop_eq_cons ht) hlt

/-! ## Stretches in HTML -/

/-- The HTML of a query shows a stretch: its text stands there between the tags of its kind, and in
front of them what the query holds in front of it. -/
def Span.WrappedIn (s : Span) (query : Text) (classes : HighlightClasses) : Prop :=
  ∃ front back, highlight query classes
      = front ++ (openingTag (classes.get s.kind) ++ ((s.text query).toHtml ++ closingTag)) ++ back ∧
    Text.decodeEntities (Text.withoutTags front) = query.take s.start

/-- A highlighted stretch is one of the pieces. -/
theorem exists_piece_of_mem_spansFrom {pos : Nat} {pieces : List Segment} {s : Span}
    (hs : s ∈ spansFrom pos pieces) :
    ∃ before text after, pieces = before ++ .marked s.kind text :: after ∧
      s.start = pos + (before.flatMap Segment.text).length ∧ s.stop = s.start + text.length := by
  induction pieces generalizing pos with
  | nil => cases hs
  | cons piece pieces ih =>
    -- a piece in front moves the stretches behind it by its length
    have hbehind : s ∈ spansFrom (pos + piece.text.length) pieces →
        ∃ before text after, piece :: pieces = before ++ .marked s.kind text :: after ∧
          s.start = pos + (before.flatMap Segment.text).length ∧
          s.stop = s.start + text.length := by
      intro hmem
      obtain ⟨before, text, after, rfl, hstart, hstop⟩ := ih hmem
      refine ⟨piece :: before, text, after, rfl, ?_, hstop⟩
      rw [hstart, List.flatMap_cons, List.length_append, Nat.add_assoc]
    cases piece with
    | plain c => exact hbehind hs
    | marked kind text =>
      rcases List.mem_cons.mp hs with rfl | hs
      · exact ⟨[], text, pieces, rfl, rfl, rfl⟩
      · exact hbehind hs

/-- **Every highlighted stretch is wrapped where it stands.** -/
theorem wrappedIn_of_mem_spansOf {query : Text} {s : Span} (classes : HighlightClasses)
    (hs : s ∈ spansOf query) : s.WrappedIn query classes := by
  obtain ⟨before, text, after, hpieces, hstart, hstop⟩ := exists_piece_of_mem_spansFrom hs
  have hquery : query = before.flatMap Segment.text ++ (text ++ after.flatMap Segment.text) := by
    rw [← flatMap_text_segments query, hpieces, List.flatMap_append, List.flatMap_cons,
      Segment.text]
  rw [Nat.zero_add] at hstart
  have htext : s.text query = text := by
    rw [Span.text, hstop]
    refine Text.between_add_length ⟨after.flatMap Segment.text, ?_⟩
    conv_rhs => rw [hstart, hquery, List.drop_left]
  refine ⟨before.flatMap (Segment.toHtml classes), after.flatMap (Segment.toHtml classes), ?_, ?_⟩
  · rw [highlight, hpieces, List.flatMap_append, List.flatMap_cons, toHtml_marked, htext]
    simp only [List.append_assoc]
  · rw [withoutTags_flatMap_toHtml, Text.decodeEntities_toHtml, hstart]
    conv_rhs => rw [hquery, List.take_left]

/-! ## Markers -/

/-- A marker in front is highlighted as a field. -/
theorem leadingMatch?_ne_none_of_beginsMarker {t : Text} (afterWord : Bool) (h : BeginsMarker t) :
    leadingMatch? afterWord t ≠ none := by
  obtain ⟨beyond, hbeyond⟩ := Option.isSome_iff_exists.mp (isSome_afterMarker?_iff.mpr h)
  rw [leadingMatch?, leadingMarker?, hbeyond]
  exact Option.some_ne_none _

/-- **A highlighted marker**: a plus sign, a label and a colon, with the query going on behind. -/
theorem Span.StandsIn.field {s : Span} {query : Text} (h : s.StandsIn query)
    (hkind : s.kind = .field) :
    ∃ beyond, query.drop s.start = '+' :: (s.label query ++ ':' :: beyond) ∧
      s.text query = '+' :: (s.label query ++ [':']) ∧
      ∀ c ∈ s.label query, endsLabel c = false := by
  obtain ⟨b, hmatch⟩ := h.isMatch
  rw [hkind] at hmatch
  rcases leadingMatch?_cases hmatch with ⟨-, hmarker⟩ | ⟨hother, -⟩ | ⟨hother, -⟩
  · obtain ⟨l, beyond, -, hl, htext, hdrop⟩ := leadingMarker?_eq_some hmarker
    have hlabel : s.label query = l := by
      rw [Span.label, htext, List.tail_cons, List.dropLast_concat]
    rw [hlabel]
    exact ⟨beyond, by rw [hdrop, htext]; simp, htext, hl⟩
  · cases hother
  · cases hother

/-- A highlighted stretch that is no phrase holds a plus sign at most where it begins. -/
theorem Span.StandsIn.start_eq {s : Span} {query : Text} {i : Nat} (h : s.StandsIn query)
    (hkind : s.kind ≠ .phrase) (hplus : query[i]? = some '+') (hstart : s.start ≤ i)
    (hstop : i < s.stop) : s.kind = .field ∧ s.start = i := by
  have hmem : (s.text query)[i - s.start]? = some '+' := by
    rw [Span.text, query.getElem?_between hstart hstop, hplus]
  obtain ⟨b, hmatch⟩ := h.isMatch
  rcases leadingMatch?_cases hmatch with ⟨hfield, -⟩ | ⟨hphrase, -⟩ | ⟨-, hoperator⟩
  · refine ⟨hfield, ?_⟩
    obtain ⟨beyond, -, htext, hl⟩ := h.field hfield
    by_contra hne
    -- behind its first character a marker holds its label and its colon
    obtain ⟨k, hk⟩ : ∃ k, i - s.start = k + 1 := ⟨i - s.start - 1, by omega⟩
    rw [htext, hk, List.getElem?_cons_succ] at hmem
    rcases List.mem_append.mp (List.mem_of_getElem? hmem) with hin | hin
    · exact absurd (hl _ hin) (by decide)
    · exact absurd hin (by decide)
  · exact absurd hphrase hkind
  · obtain ⟨op, beyond, htext, -⟩ := leadingOperator?_eq_some hoperator
    rw [htext] at hmem
    have hnone : '+' ∉ op.name := by cases op <;> decide
    exact absurd (List.mem_of_getElem? hmem) hnone

/-- A highlighted phrase begins with a quote. -/
theorem Span.StandsIn.phrase {s : Span} {query : Text} (h : s.StandsIn query)
    (hkind : s.kind = .phrase) : query[s.start]? = some '"' := by
  obtain ⟨b, hmatch⟩ := h.isMatch
  rw [hkind] at hmatch
  rcases leadingMatch?_cases hmatch with ⟨hother, -⟩ | ⟨-, hphrase⟩ | ⟨hother, -⟩
  · cases hother
  · obtain ⟨p, beyond, -, -, htext, hdrop⟩ := leadingPhrase?_eq_some hphrase
    rw [← List.head?_drop, hdrop, htext, List.cons_append, List.head?_cons]
  · cases hother

/-- The stretch shows a marker of a label as a field: it covers exactly the plus sign, the label,
letter by letter, and the colon. -/
structure Span.ShowsMarker (s : Span) (m : Marker) (query label : Text) : Prop where
  kind_eq : s.kind = .field
  start_eq : s.start = m.start
  stop_eq : s.stop = m.start + (label.length + 2)
  text_eq : s.text query = '+' :: (s.label query ++ [':'])
  label_eq : (s.label query).map plainLetter = label.map plainLetter

/-- A highlighted marker that begins where a marker of a label stands shows that one. -/
theorem Span.StandsIn.showsMarker {s : Span} {m : Marker} {query label : Text}
    (h : s.StandsIn query) (hkind : s.kind = .field) (hlabel : IsLabel label)
    (hm : m.StandsIn query label) (hstart : s.start = m.start) :
    s.ShowsMarker m query label := by
  obtain ⟨beyond, hdrop, htext, hends⟩ := h.field hkind
  obtain ⟨l, blanks, hsource, hl, -⟩ := hm.source
  -- both end with the first colon
  rw [hstart, hsource] at hdrop
  obtain ⟨hsame, -⟩ := Text.append_cons_inj (hlabel.not_mem hl (by decide))
    (fun hcolon => absurd (hends _ hcolon) (by decide)) (List.cons.inj hdrop).2
  have hletters : (s.label query).map plainLetter = label.map plainLetter := by rw [← hsame, hl]
  have hlength := congrArg List.length hletters
  rw [List.length_map, List.length_map] at hlength
  refine ⟨hkind, hstart, ?_, htext, hletters⟩
  rw [h.stop_eq, htext, hstart, ← hlength]
  simp

/-- **A marker of a label is highlighted**, unless its plus sign lies in a highlighted phrase. -/
theorem phraseSpan_or_showsMarker {query label : Text} {m : Marker} (hlabel : IsLabel label)
    (h : m.StandsIn query label) :
    (∃ s ∈ spansOf query, s.kind = .phrase ∧ s.start < m.start ∧ m.start < s.stop) ∨
      ∃ s ∈ spansOf query, s.ShowsMarker m query label := by
  have hplus := h.getElem?_start
  have hin : m.start < query.length := (List.getElem?_eq_some_iff.mp hplus).1
  rcases exists_span_or_eq_none false List.drop_zero (Nat.zero_le _) hin with
    ⟨s, hs, hstart, hstop⟩ | ⟨b, hnone⟩
  · have hstands : s.StandsIn query := standsIn_of_mem_spansFrom List.drop_zero hs
    by_cases hkind : s.kind = .phrase
    · refine Or.inl ⟨s, hs, hkind, Nat.lt_of_le_of_ne hstart fun hsame => ?_, hstop⟩
      have hquote := hstands.phrase hkind
      rw [hsame, hplus] at hquote
      cases hquote
    · obtain ⟨hfield, hsame⟩ := hstands.start_eq hkind hplus hstart hstop
      exact Or.inr ⟨s, hs, hstands.showsMarker hfield hlabel h hsame⟩
  · exact absurd hnone (leadingMatch?_ne_none_of_beginsMarker b (h.beginsMarker hlabel))

/-- **A highlighted marker that spells the label of a field is read**, and no other field has a
marker there. -/
theorem Span.StandsIn.read {s : Span} {query : Text} {f : Field} (h : s.StandsIn query)
    (hkind : s.kind = .field) (hspells : Spells (s.label query) f.label) :
    (∃ m ∈ labelMarkers query f.label, m.start = s.start) ∧
      ∀ g : Field, (afterLabel? g.label (query.drop s.start)).isSome = true ↔ g = f := by
  obtain ⟨beyond, hdrop, -, -⟩ := h.field hkind
  have hletters : (s.label query).map plainLetter = f.label.map plainLetter :=
    (map_plainLetter_eq_iff fun c hc => (hspells.ascii hc).1).mpr hspells
  have hfollows : afterLabel? f.label (query.drop s.start) = some (Text.trimStart beyond) :=
    afterLabel?_eq_some_iff.mpr ⟨_, beyond, hdrop, hletters, rfl⟩
  refine ⟨exists_mem_labelMarkers (isLabel_label f) hfollows, fun g => ⟨fun hsome => ?_, ?_⟩⟩
  · obtain ⟨_, hg⟩ := Option.isSome_iff_exists.mp hsome
    exact eq_of_afterLabel?_eq_some hg hfollows
  · rintro rfl
    rw [hfollows, Option.isSome_some]

/-- **The highlighting and the readers of fields agree on markers.**  The plus sign of a marker that
is read lies in a highlighted phrase, or the marker is highlighted as one field, from its plus sign
to its colon.  A highlighted field that spells the label of one of the fields is read as a marker of
that field, and of no other.  What is highlighted is what the HTML wraps. -/
theorem markers_agree_with_fieldSpans (query : Text) :
    (∀ f : Field, ∀ m ∈ labelMarkers query f.label,
        (∃ s ∈ spansOf query, s.kind = .phrase ∧ s.start < m.start ∧ m.start < s.stop) ∨
          ∃ s ∈ spansOf query, s.ShowsMarker m query f.label) ∧
      (∀ s ∈ spansOf query, s.kind = .field → ∀ f : Field, Spells (s.label query) f.label →
        (∃ m ∈ labelMarkers query f.label, m.start = s.start) ∧
          ∀ g : Field, (afterLabel? g.label (query.drop s.start)).isSome = true ↔ g = f) ∧
      ∀ s ∈ spansOf query, ∀ classes, s.WrappedIn query classes := by
  refine ⟨fun f m hm => ?_, fun s hs hkind f hspells => ?_,
    fun s hs classes => wrappedIn_of_mem_spansOf classes hs⟩
  · have hlabel := isLabel_label f
    exact phraseSpan_or_showsMarker hlabel ((mem_labelMarkers_iff hlabel).mp hm)
  · exact (standsIn_of_mem_spansFrom List.drop_zero hs).read hkind hspells

/-- A query with a marker in capitals, one in a phrase, and one behind an unknown label. -/
def mixedMarkersQuery : Text := "+COMPANY:(a) \"b +Location:c\" OR ++Foo:+Location:d".toList

/-- In the mixed query the marker in the phrase is hidden, and the last one is a marker of its field
alone. -/
theorem markers_agree_with_fieldSpans_mixedMarkersQuery :
    (⟨16, 26⟩ : Marker) ∈ labelMarkers mixedMarkersQuery (Field.list .location).label ∧
      (∃ s ∈ spansOf mixedMarkersQuery, s.kind = .phrase ∧ s.start < 16 ∧ 16 < s.stop) ∧
      ∀ g : Field,
        (afterLabel? g.label (mixedMarkersQuery.drop 38)).isSome = true ↔ g = .list .location := by
  have hread : (⟨16, 26⟩ : Marker)
      ∈ labelMarkers mixedMarkersQuery (Field.list .location).label := by decide +kernel
  have hspans : spansOf mixedMarkersQuery
      = [⟨.field, 0, 9⟩, ⟨.phrase, 13, 28⟩, ⟨.operator, 29, 31⟩, ⟨.field, 33, 38⟩,
        ⟨.field, 38, 48⟩] := by
    decide +kernel
  have hspells : Spells (Span.label ⟨.field, 38, 48⟩ mixedMarkersQuery)
      (Field.list .location).label := by decide +kernel
  obtain ⟨hhidden, hshown, -⟩ := markers_agree_with_fieldSpans mixedMarkersQuery
  rw [hspans] at hhidden hshown ⊢
  refine ⟨hread, (hhidden _ _ hread).resolve_right ?_, (hshown _ (by decide) rfl _ hspells).2⟩
  rintro ⟨s, hs, hshows⟩
  have hstarts : ∀ s ∈ ([⟨.field, 0, 9⟩, ⟨.phrase, 13, 28⟩, ⟨.operator, 29, 31⟩, ⟨.field, 33, 38⟩,
      ⟨.field, 38, 48⟩] : List Span), s.start ≠ 16 := by
    decide
  exact hstarts s hs hshows.start_eq

end CandidateSearch

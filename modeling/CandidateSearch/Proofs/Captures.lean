import CandidateSearch.Proofs.Clauses
import CandidateSearch.Proofs.MarkerPlaces

/-!
# Where the text of clauses lies

A clause reads stretches of the query: the inside of its group, and outside of parentheses a plain
value or, for keywords, what trails the group.  The stretch outside of parentheses reaches exactly as
far as no marker begins, a plain value no further than the next comma.  So no marker stands in it,
and a clause that reads a position which another one reads begins inside the group of that clause.

* `Clause.group?`, `Clause.captured?`: the stretches that a clause reads;
* `Stretch.IsMaximal`: a stretch without markers that ends where it must;
* `isMaximal_captured?`: what is captured outside of parentheses;
* `Marker.StandsIn.liesIn_of_reads`: when two clauses read the same position;
* `captured_text_maximal`: all of it together.
-/

namespace CandidateSearch

/-! ## Stretches -/

/-- A stretch of a query, from its first position to the one past its last. -/
structure Stretch where
  start : Nat
  stop : Nat
  deriving DecidableEq, Repr

/-- The text of a stretch. -/
def Stretch.text (s : Stretch) (query : Text) : Text := query.between s.start s.stop

/-- The position belongs to the stretch. -/
def Stretch.Holds (s : Stretch) (i : Nat) : Prop := s.start ≤ i ∧ i < s.stop

/-- The whole marker, with the blanks behind it, belongs to the stretch. -/
def Marker.LiesIn (m : Marker) (s : Stretch) : Prop := s.start ≤ m.start ∧ m.stop ≤ s.stop

/-- The stretch holds no marker, of whatever label, and ends at the end of the query or where a
marker begins; if it may end at a comma, it may end there as well, and holds none. -/
structure Stretch.IsMaximal (s : Stretch) (query : Text) (mayEndAtComma : Prop) : Prop where
  start_le : s.start ≤ s.stop
  stop_le : s.stop ≤ query.length
  nextMarker_text : nextMarker (s.text query) = (s.text query).length
  not_beginsMarker : ∀ i, s.Holds i → ¬ BeginsMarker (query.drop i)
  afterLabel?_eq_none : ∀ i, s.Holds i → ∀ f : Field, afterLabel? f.label (query.drop i) = none
  not_mem_comma : mayEndAtComma → ',' ∉ s.text query
  ends : s.stop = query.length ∨ BeginsMarker (query.drop s.stop) ∨
    mayEndAtComma ∧ query[s.stop]? = some ','

/-- **A front of what follows a position** is maximal if it reaches up to the next marker, or, short
of it, up to the first comma. -/
theorem isMaximal_take {query t : Text} {start n : Nat} {mayEndAtComma : Prop}
    (ht : query.drop start = t) (hstart : start ≤ query.length) (hn : n ≤ nextMarker t)
    (hcomma : mayEndAtComma → ',' ∉ t.take n)
    (hend : n = nextMarker t ∨ mayEndAtComma ∧ t[n]? = some ',') :
    Stretch.IsMaximal ⟨start, start + (t.take n).length⟩ query mayEndAtComma := by
  obtain ⟨hfirst, hlast⟩ := nextMarker_spec t
  have hlength : start + t.length = query.length := by
    rw [← ht, List.length_drop]
    omega
  have hle := nextMarker_le_length t
  have htake : (t.take n).length = n := List.length_take_of_le (by omega)
  have htext : Stretch.text ⟨start, start + (t.take n).length⟩ query = t.take n :=
    Text.between_add_length (by rw [ht]; exact List.take_prefix n t)
  have hdrop : ∀ k, query.drop (start + k) = t.drop k := fun k => by rw [← List.drop_drop, ht]
  have hnone : ∀ i, Stretch.Holds ⟨start, start + (t.take n).length⟩ i →
      ¬ BeginsMarker (query.drop i) := by
    rintro i ⟨hi, hi'⟩
    obtain ⟨k, rfl⟩ := Nat.exists_eq_add_of_le hi
    rw [htake, Nat.add_lt_add_iff_left] at hi'
    rw [hdrop]
    exact hfirst k (Nat.lt_of_lt_of_le hi' hn)
  have hends : start + n = query.length ∨ BeginsMarker (query.drop (start + n)) ∨
      mayEndAtComma ∧ query[start + n]? = some ',' := by
    rw [hdrop, ← List.getElem?_drop, ht]
    rcases hend with rfl | hend
    · rcases hlast with hwhole | hbegins
      · exact Or.inl (by rw [hwhole, hlength])
      · exact Or.inr (Or.inl hbegins)
    · exact Or.inr (Or.inr hend)
  constructor
  · exact Nat.le_add_right start _
  · show start + (t.take n).length ≤ query.length
    omega
  · rw [htext]
    exact nextMarker_take hn
  · exact hnone
  · -- a marker of a field is a marker
    intro i hi f
    rw [Option.eq_none_iff_forall_ne_some]
    exact fun beyond hbeyond => hnone i hi
      (isSome_afterMarker?_iff.mp (isSome_afterMarker?_of_afterLabel? (isLabel_label f) hbeyond))
  · rw [htext]
    exact hcomma
  · rwa [htake]

/-! ## The stretches of a clause -/

/-- Where the inside of the group of a clause lies, if there is a group and it is closed. -/
def Clause.group? (c : Clause) : Option Stretch :=
  match c.body with
  | .group inner _ => some ⟨c.start + 1, c.start + 1 + inner.length⟩
  | _ => none

/-- Where the text lies that a clause of a field captures outside of parentheses: its value, or for
keywords what trails the group, up to where it is trimmed. -/
def Clause.captured? (f : ListField) (c : Clause) : Option Stretch :=
  match c.body with
  | .unclosed => none
  | .group inner tail =>
    let stop := c.start + 1 + inner.length + 1
    if f = .keywords then some ⟨stop, stop + tail.length⟩ else none
  | .plain value => some ⟨c.start, c.start + value.length⟩

/-- What a clause contributes, from the stretches that it reads. -/
def contentFrom (query : Text) (group captured : Option Stretch) : Option Text :=
  match group, captured with
  | none, none => none
  | none, some s => some (s.text query).trim
  | some g, none => some (g.text query)
  | some g, some s => some (joinTrailing (g.text query) (s.text query))

/-- The clause of a field reads the position. -/
def Clause.Reads (f : ListField) (c : Clause) (i : Nat) : Prop :=
  ∃ s, (c.group? = some s ∨ c.captured? f = some s) ∧ s.Holds i

/-- The clause of a marker. -/
def Marker.clause (m : Marker) (query : Text) : Clause := ⟨m.stop, clauseBodyAt query m.stop⟩

/-- The clauses of a label are those of its markers. -/
theorem mem_clauses_iff {query label : Text} {c : Clause} :
    c ∈ clauses query label ↔ ∃ m ∈ labelMarkers query label, m.clause query = c :=
  List.mem_map

/-- **What stands behind a marker**: a group that is never closed, a closed group, or plain text. -/
theorem Marker.clause_cases (m : Marker) (query : Text) :
    m.clause query = ⟨m.stop, .unclosed⟩ ∨
      (∃ inner beyond, query.drop m.stop = '(' :: (inner ++ ')' :: beyond) ∧
        m.clause query = ⟨m.stop, .group inner (beyond.take (nextMarker beyond))⟩) ∨
      m.clause query
        = ⟨m.stop, .plain ((query.drop m.stop).take (plainLength (query.drop m.stop)))⟩ := by
  rw [Marker.clause, clauseBodyAt_eq_bodyOf]
  rcases bodyOf_cases (query.drop m.stop) with
    ⟨t, -, -, hbody⟩ | ⟨t, inner, beyond, ht, hsplit, hbody⟩ | ⟨-, hbody⟩
  · exact Or.inl (by rw [hbody])
  · exact Or.inr (Or.inl ⟨inner, beyond, by rw [ht, splitGroup_eq_some hsplit], by rw [hbody]⟩)
  · exact Or.inr (Or.inr (by rw [hbody]))

section Places

variable {query inner beyond : Text} {start : Nat}
  (hdrop : query.drop start = '(' :: (inner ++ ')' :: beyond))

include hdrop

/-- The closing parenthesis of a group, and what follows it. -/
theorem drop_group : query.drop (start + 1 + inner.length) = ')' :: beyond := by
  rw [← List.drop_drop, drop_succ_of_drop_eq_cons hdrop, List.drop_left]

/-- What follows a group. -/
theorem drop_behind_group : query.drop (start + 1 + inner.length + 1) = beyond :=
  drop_succ_of_drop_eq_cons (drop_group hdrop)

/-- A group ends within the query. -/
theorem stop_group_lt : start + 1 + inner.length < query.length := by
  have hlength := congrArg List.length (drop_group hdrop)
  rw [List.length_drop, List.length_cons] at hlength
  omega

end Places

/-- **What a clause contributes is what stands in its stretches.** -/
theorem content_clause (m : Marker) (query : Text) (f : ListField) :
    (m.clause query).content f.label
      = contentFrom query (m.clause query).group? ((m.clause query).captured? f) := by
  rcases m.clause_cases query with h | ⟨inner, beyond, hdrop, h⟩ | h
  · rw [h]
    rfl
  · have hinner : query.between (m.stop + 1) (m.stop + 1 + inner.length) = inner :=
      Text.between_add_length ⟨_, (drop_succ_of_drop_eq_cons hdrop).symm⟩
    have htail : query.between (m.stop + 1 + inner.length + 1)
        (m.stop + 1 + inner.length + 1 + (beyond.take (nextMarker beyond)).length)
          = beyond.take (nextMarker beyond) :=
      Text.between_add_length (by rw [drop_behind_group hdrop]; exact List.take_prefix _ _)
    rw [h, Clause.content, takesTrailingText_label, Clause.group?, Clause.captured?]
    by_cases hf : f = .keywords
    · simp only [hf, decide_true, if_true, contentFrom, Stretch.text, hinner, htail]
    · simp only [hf, decide_false, if_false, contentFrom, Stretch.text, hinner]
      rfl
  · have hvalue := Text.between_add_length
      (List.take_prefix (plainLength (query.drop m.stop)) (query.drop m.stop))
    rw [h]
    show some (Text.trim _) = some (Text.trim (query.between m.stop (m.stop + _)))
    rw [hvalue]

/-- A plain value reaches up to the next marker or, short of it, up to the first comma, and holds no
comma. -/
theorem plainLength_spec (t : Text) :
    plainLength t ≤ nextMarker t ∧ ',' ∉ t.take (plainLength t) ∧
      (plainLength t = nextMarker t ∨ t[plainLength t]? = some ',') := by
  obtain ⟨hbefore, hbehind⟩ := Text.lengthBefore_spec (· == ',') t
  have hmarker := nextMarker_le_length t
  refine ⟨Nat.min_le_right _ _, fun hmem => ?_, ?_⟩
  · rw [plainLength, Nat.min_comm, ← List.take_take] at hmem
    exact absurd (hbefore _ (List.mem_of_mem_take hmem)) (by decide)
  · rw [plainLength]
    rcases hbehind with hwhole | ⟨c, hc, hcomma⟩
    · exact Or.inl (Nat.min_eq_right (by omega))
    · rcases Nat.le_total (nextMarker t) (t.lengthBefore (· == ',')) with hle | hle
      · exact Or.inl (Nat.min_eq_right hle)
      · rw [Nat.min_eq_left hle, hc, beq_iff_eq.mp hcomma]
        exact Or.inr rfl

/-- **What a clause captures outside of parentheses is maximal**: it holds no marker, and ends where
one begins or the query ends.  A value without a group ends at a comma as well. -/
theorem isMaximal_captured? {query label : Text} {m : Marker} {f : ListField} {s : Stretch}
    (hm : m.StandsIn query label) (hs : (m.clause query).captured? f = some s) :
    s.IsMaximal query ((m.clause query).group? = none) := by
  rcases m.clause_cases query with h | ⟨inner, beyond, hdrop, h⟩ | h
  · rw [h] at hs
    cases hs
  · rw [h] at hs ⊢
    have hf : f = .keywords := by
      by_contra hf
      simp only [Clause.captured?, hf, if_false] at hs
      cases hs
    simp only [Clause.captured?, hf, if_true, Option.some.injEq] at hs
    rw [← hs]
    have hgroup : ¬ Clause.group? ⟨m.stop, .group inner (beyond.take (nextMarker beyond))⟩ = none :=
      Option.some_ne_none _
    exact isMaximal_take (drop_behind_group hdrop) (stop_group_lt hdrop) le_rfl
      (fun hnone => absurd hnone hgroup) (Or.inl rfl)
  · rw [h] at hs ⊢
    cases hs
    obtain ⟨hle, hcomma, hend⟩ := plainLength_spec (query.drop m.stop)
    exact isMaximal_take rfl hm.stop_le hle (fun _ => hcomma) (hend.imp_right fun h => ⟨rfl, h⟩)

/-! ## Positions that two clauses read -/

/-- The inside of a group lies between its parentheses, the first of them behind the marker. -/
theorem Marker.group?_clause {query : Text} {m : Marker} {s : Stretch}
    (hs : (m.clause query).group? = some s) :
    s.start = m.stop + 1 ∧ s.start ≤ s.stop ∧ query[m.stop]? = some '(' ∧
      query[s.stop]? = some ')' := by
  rcases m.clause_cases query with h | ⟨inner, beyond, hdrop, h⟩ | h
  · rw [h] at hs
    cases hs
  · rw [h] at hs
    cases hs
    refine ⟨rfl, Nat.le_add_right _ _, ?_, ?_⟩
    · rw [← List.head?_drop, hdrop, List.head?_cons]
    · show query[m.stop + 1 + inner.length]? = _
      rw [← List.head?_drop, drop_group hdrop, List.head?_cons]
  · rw [h] at hs
    cases hs

/-- What a clause captures outside of parentheses begins with the clause, or behind its group. -/
theorem Clause.start_captured? {c : Clause} {f : ListField} {s : Stretch}
    (hs : c.captured? f = some s) :
    s.start = c.start ∨ ∃ g, c.group? = some g ∧ s.start = g.stop + 1 := by
  unfold Clause.captured? at hs
  split at hs
  · cases hs
  · next inner tail hbody =>
    refine Or.inr ⟨⟨c.start + 1, c.start + 1 + inner.length⟩, by rw [Clause.group?, hbody], ?_⟩
    split_ifs at hs
    cases hs
    rfl
  · cases hs
    exact Or.inl rfl

/-- A clause reads behind its marker. -/
theorem Marker.stop_le_of_reads {query : Text} {m : Marker} {f : ListField} {i : Nat}
    (h : (m.clause query).Reads f i) : m.stop ≤ i := by
  obtain ⟨s, hs | hs, hi, -⟩ := h
  · obtain ⟨hstart, -⟩ := Marker.group?_clause hs
    omega
  · rcases Clause.start_captured? hs with hstart | ⟨g, hg, hstart⟩
    · rw [hstart] at hi
      exact hi
    · obtain ⟨hfirst, hle, -⟩ := Marker.group?_clause hg
      omega

/-- **When two clauses read the same position**, the marker of the second one lies inside the group
of the first one. -/
theorem Marker.StandsIn.liesIn_of_reads {query : Text} {f g : ListField} {m n : Marker} {i : Nat}
    (hm : m.StandsIn query f.label) (hn : n.StandsIn query g.label) (hlt : m.start < n.start)
    (hmi : (m.clause query).Reads f i) (hni : (n.clause query).Reads g i) :
    ∃ s, (m.clause query).group? = some s ∧ n.LiesIn s := by
  have hbehind : m.stop ≤ n.start := hm.stop_le_start (isLabel_label (.list f)) hn hlt
  have hwidth := hn.start_lt_stop
  have hplus := hn.getElem?_start
  have hread : n.stop ≤ i := Marker.stop_le_of_reads hni
  -- the marker begins behind the opening parenthesis, which is no plus sign
  have hinside : ∀ s, (m.clause query).group? = some s → s.start ≤ n.start := by
    intro s hs
    obtain ⟨hstart, -, hopen, -⟩ := Marker.group?_clause hs
    have hne : m.stop ≠ n.start := fun heq => by
      rw [heq, hplus] at hopen
      cases hopen
    omega
  obtain ⟨s, hs | hs, hi, hi'⟩ := hmi
  · exact ⟨s, hs, hinside s hs, by omega⟩
  · -- no marker stands in what is captured, so this one stands in front of it
    have hfront : n.start < s.start := by
      by_contra hle
      exact (isMaximal_captured? hm hs).not_beginsMarker n.start ⟨by omega, by omega⟩
        (hn.beginsMarker (isLabel_label (.list g)))
    rcases Clause.start_captured? hs with hstart | ⟨group, hgroup, hstart⟩
    · have hbegin : s.start = m.stop := hstart
      omega
    · obtain ⟨-, -, -, hclose⟩ := Marker.group?_clause hgroup
      refine ⟨group, hgroup, hinside group hgroup, ?_⟩
      -- a marker holds no closing parenthesis
      by_contra hover
      have hne : n.start ≠ group.stop := fun heq => by
        rw [← heq, hplus] at hclose
        cases hclose
      rcases hn.eq_colon_or (isLabel_label (.list g)) (by omega) (by omega) hclose with h | h
      · exact absurd h (by decide)
      · exact absurd h (by decide)

/-- Markers of fields that begin at the same place are the same. -/
theorem Marker.StandsIn.eq_of_start_eq_of_field {query : Text} {f g : ListField} {m n : Marker}
    (hm : m.StandsIn query f.label) (hn : n.StandsIn query g.label) (h : m.start = n.start) :
    (f, m) = (g, n) := by
  have hfield : Field.list f = Field.list g :=
    eq_of_afterLabel?_eq_some hm.follows (h ▸ hn.follows)
  obtain rfl := Field.list.inj hfield
  rw [hm.eq_of_start_eq hn h]

/-- **Captured text never reaches past a marker, and as far as it can.**  A clause contributes what
stands in its stretches; the one outside of parentheses holds no marker of any label, a value without
a group no comma either, and it ends where the query ends, a marker begins or, for such a value, at a
comma.  So two clauses read the same position only if the marker of one of them lies inside the
group of the other. -/
theorem captured_text_maximal (query : Text) :
    (∀ f : ListField, ∀ c ∈ clauses query f.label,
        c.content f.label = contentFrom query c.group? (c.captured? f) ∧
          ∀ s, c.captured? f = some s → s.IsMaximal query (c.group? = none)) ∧
      ∀ f g : ListField, ∀ m ∈ labelMarkers query f.label, ∀ n ∈ labelMarkers query g.label,
        (f, m) ≠ (g, n) → ∀ i, (m.clause query).Reads f i → (n.clause query).Reads g i →
          (∃ s, (m.clause query).group? = some s ∧ n.LiesIn s) ∨
            ∃ s, (n.clause query).group? = some s ∧ m.LiesIn s := by
  have hstands : ∀ (f : ListField), ∀ m ∈ labelMarkers query f.label, m.StandsIn query f.label :=
    fun f m hm => (mem_labelMarkers_iff (isLabel_label (.list f))).mp hm
  constructor
  · intro f c hc
    obtain ⟨m, hm, rfl⟩ := mem_clauses_iff.mp hc
    exact ⟨content_clause m query f, fun s hs => isMaximal_captured? (hstands f m hm) hs⟩
  · intro f g m hm n hn hne i hmi hni
    rcases Nat.lt_trichotomy m.start n.start with hlt | heq | hlt
    · exact Or.inl ((hstands f m hm).liesIn_of_reads (hstands g n hn) hlt hmi hni)
    · exact absurd ((hstands f m hm).eq_of_start_eq_of_field (hstands g n hn) heq) hne
    · exact Or.inr ((hstands g n hn).liesIn_of_reads (hstands f m hm) hlt hni hmi)

/-- A query with a marker inside a group, and a stretch behind the group that looks like a marker but
for its comma. -/
def nestedMarkerQuery : Text :=
  "+Keywords:(Go +Location:Paris, x) y +a,b: z +Company:Acme".toList

/-- The keywords of the nested query reach up to the marker of the company, and share the text of the
location, whose marker lies inside their group. -/
theorem captured_text_maximal_nestedMarkerQuery :
    Stretch.IsMaximal ⟨33, 44⟩ nestedMarkerQuery
        ((Marker.clause ⟨0, 10⟩ nestedMarkerQuery).group? = none) ∧
      ((∃ s, (Marker.clause ⟨0, 10⟩ nestedMarkerQuery).group? = some s ∧
          Marker.LiesIn ⟨14, 24⟩ s) ∨
        ∃ s, (Marker.clause ⟨14, 24⟩ nestedMarkerQuery).group? = some s ∧
          Marker.LiesIn ⟨0, 10⟩ s) := by
  have hkeywords : (⟨0, 10⟩ : Marker)
      ∈ labelMarkers nestedMarkerQuery (ListField.label .keywords) := by decide +kernel
  have hlocation : (⟨14, 24⟩ : Marker)
      ∈ labelMarkers nestedMarkerQuery (ListField.label .location) := by decide +kernel
  have hgroup : (Marker.clause ⟨0, 10⟩ nestedMarkerQuery).group? = some ⟨11, 32⟩ := by
    decide +kernel
  have htail : (Marker.clause ⟨0, 10⟩ nestedMarkerQuery).captured? .keywords = some ⟨33, 44⟩ := by
    decide +kernel
  have hvalue : (Marker.clause ⟨14, 24⟩ nestedMarkerQuery).captured? .location
      = some ⟨24, 29⟩ := by
    decide +kernel
  obtain ⟨hmaximal, hshared⟩ := captured_text_maximal nestedMarkerQuery
  constructor
  · exact (hmaximal .keywords _ (mem_clauses_iff.mpr ⟨_, hkeywords, rfl⟩)).2 _ htail
  · exact hshared _ _ _ hkeywords _ hlocation (by decide) 24
      ⟨_, Or.inl hgroup, by decide, by decide⟩ ⟨_, Or.inr hvalue, by decide, by decide⟩

end CandidateSearch

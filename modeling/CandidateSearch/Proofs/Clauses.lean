import CandidateSearch.Proofs.Groups
import CandidateSearch.Proofs.Markers
import CandidateSearch.Proofs.Terms
import CandidateSearch.Query.Parsed

/-!
# Clauses from what follows their markers

A clause is read from the text behind its marker alone, wherever in the query that text stands.
`bodyOf` and `contentOf` read it there, and the equations below give the contents, scalars and lists
of a query through the remainders of its labels.

* `bodyOf_cases`: the three kinds of bodies, and what each begins with;
* `clauseContents_eq_map`, `extractScalar_eq_find?`: clauses and scalars from the remainders;
* `terms_parse`, `operators_parse`, `scope_parse`: what a parsed query says under each field;
* `lexemes_joinTrailing`, `terms_joinTrailing`, `scanOperators_joinTrailing`: a group and the text
  that trails it are read one after the other;
* `readContents_append`, `readContents_singleton`: which of several contents is read;
* `isTerm_of_mem_contentOf`: a term of a clause is a stretch of what follows its marker.
-/

namespace CandidateSearch

/-! ## Bodies -/

/-- What stands behind a marker, given the text that follows the marker. -/
def bodyOf (r : Text) : ClauseBody :=
  match r with
  | '(' :: t =>
    match splitGroup 1 t with
    | none => .unclosed
    | some (inner, beyond) => .group inner (beyond.take (nextMarker beyond))
  | _ => .plain (r.take (plainLength r))

/-- A group that is never closed. -/
theorem bodyOf_unclosed {t : Text} (h : splitGroup 1 t = none) : bodyOf ('(' :: t) = .unclosed := by
  rw [bodyOf, h]

/-- A closed group. -/
theorem bodyOf_group {t inner beyond : Text} (h : splitGroup 1 t = some (inner, beyond)) :
    bodyOf ('(' :: t) = .group inner (beyond.take (nextMarker beyond)) := by
  rw [bodyOf, h]

/-- Text without parentheses. -/
theorem bodyOf_plain {r : Text} (h : r.head? ≠ some '(') :
    bodyOf r = .plain (r.take (plainLength r)) := by
  unfold bodyOf
  split
  · exact absurd rfl h
  · rfl

/-- **The three kinds of bodies**: a group that is never closed, a closed group, or text without
parentheses. -/
theorem bodyOf_cases (r : Text) :
    (∃ t, r = '(' :: t ∧ splitGroup 1 t = none ∧ bodyOf r = .unclosed) ∨
      (∃ t inner beyond, r = '(' :: t ∧ splitGroup 1 t = some (inner, beyond) ∧
        bodyOf r = .group inner (beyond.take (nextMarker beyond))) ∨
      r.head? ≠ some '(' ∧ bodyOf r = .plain (r.take (plainLength r)) := by
  by_cases hhead : r.head? = some '('
  · obtain ⟨t, rfl⟩ := List.head?_eq_some_iff.mp hhead
    cases hsplit : splitGroup 1 t with
    | none => exact Or.inl ⟨t, rfl, hsplit, bodyOf_unclosed hsplit⟩
    | some parts => exact Or.inr (Or.inl ⟨t, parts.1, parts.2, rfl, hsplit, bodyOf_group hsplit⟩)
  · exact Or.inr (Or.inr ⟨hhead, bodyOf_plain hhead⟩)

/-- A body that is never closed begins with a group that is never closed. -/
theorem bodyOf_eq_unclosed {r : Text} (h : bodyOf r = .unclosed) :
    ∃ t, r = '(' :: t ∧ splitGroup 1 t = none := by
  rcases bodyOf_cases r with ⟨t, ht, hsplit, -⟩ | ⟨t, inner, beyond, -, -, hbody⟩ | ⟨-, hbody⟩
  · exact ⟨t, ht, hsplit⟩
  · rw [hbody] at h
    cases h
  · rw [hbody] at h
    cases h

/-- A body that is a closed group begins with that group. -/
theorem bodyOf_eq_group {r inner tail : Text} (h : bodyOf r = .group inner tail) :
    ∃ t beyond, r = '(' :: t ∧ splitGroup 1 t = some (inner, beyond) := by
  rcases bodyOf_cases r with ⟨t, -, -, hbody⟩ | ⟨t, found, beyond, ht, hsplit, hbody⟩ | ⟨-, hbody⟩
  · rw [hbody] at h
    cases h
  · rw [hbody] at h
    cases h
    exact ⟨t, beyond, ht, hsplit⟩
  · rw [hbody] at h
    cases h

/-- **A clause is read from what follows its marker.** -/
theorem clauseBodyAt_eq_bodyOf (query : Text) (start : Nat) :
    clauseBodyAt query start = bodyOf (query.drop start) := by
  rw [clauseBodyAt]
  by_cases hhead : (query.drop start).head? = some '('
  · obtain ⟨t, ht⟩ := List.head?_eq_some_iff.mp hhead
    have hnext : query.drop (start + 1) = t := by
      rw [← List.drop_drop, ht, List.drop_one, List.tail_cons]
    rw [if_pos hhead, groupEnd_of_drop ht, ht]
    cases hclose : closingFrom 0 1 t with
    | none => exact (bodyOf_unclosed (by rw [splitGroup, hclose, Option.map_none])).symm
    | some n =>
      have hbeyond : query.drop (start + 1 + n + 1) = t.drop (n + 1) := by
        rw [Nat.add_assoc (start + 1), ← List.drop_drop, hnext]
      have hinner : (query.take (start + 1 + n)).drop (start + 1) = t.take n := by
        rw [List.drop_take, hnext, Nat.add_sub_cancel_left]
      have hsplit : splitGroup 1 t = some (t.take n, t.drop (n + 1)) := by
        rw [splitGroup, hclose, Option.map_some]
      rw [bodyOf_group hsplit, ← hbeyond, ← hinner]
      rfl
  · rw [if_neg hhead, bodyOf_plain hhead]

/-- A clause that is a closed group, in its query. -/
theorem exists_splitGroup_of_mem_clauses {query label inner tail : Text} {c : Clause}
    (hc : c ∈ clauses query label) (hbody : c.body = .group inner tail) :
    ∃ t beyond, query.drop c.start = '(' :: t ∧ splitGroup 1 t = some (inner, beyond) ∧
      tail = beyond.take (nextMarker beyond) := by
  obtain ⟨m, -, rfl⟩ := List.mem_map.mp hc
  have hbody' : bodyOf (query.drop m.stop) = .group inner tail := by
    rw [← clauseBodyAt_eq_bodyOf]
    exact hbody
  obtain ⟨t, beyond, ht, hsplit⟩ := bodyOf_eq_group hbody'
  rw [ht, bodyOf_group hsplit] at hbody'
  injection hbody' with _ htail
  exact ⟨t, beyond, ht, hsplit, htail.symm⟩

/-! ## Contents -/

/-- The text that a clause of a label contributes, given what follows its marker. -/
def contentOf (label r : Text) : Option Text := Clause.content label ⟨0, bodyOf r⟩

/-- **The contents of the clauses of a label, from its remainders.** -/
theorem clauseContents_eq_map (query label : Text) :
    clauseContents query label = (remainders label query).map (contentOf label) := by
  rw [clauseContents, clauses, List.map_map, ← map_drop_labelMarkers, List.map_map]
  refine List.map_congr_left fun m _ => ?_
  show Clause.content label ⟨m.stop, clauseBodyAt query m.stop⟩ = contentOf label _
  rw [clauseBodyAt_eq_bodyOf, contentOf, Clause.content, Clause.content]

/-- The value of a scalar, given what follows its marker. -/
def scalarOf (r : Text) : Text := scalarAt r 0

/-- **The scalar of a label, from its remainders.** -/
theorem extractScalar_eq_find? (query label : Text) :
    extractScalar query label = ((remainders label query).map scalarOf).find? (!·.isEmpty) := by
  rw [extractScalar, ← map_drop_labelMarkers, List.map_map]
  rfl

/-- The first usable one of some contents. -/
def firstUsable (contents : List (Option Text)) : Option Text := (contents.find? isUsable).join

theorem extractField_eq_firstUsable (query label : Text) :
    extractField query label = firstUsable ((remainders label query).map (contentOf label)) := by
  rw [extractField, clauseContents_eq_map, firstUsable]

/-- A content that is not usable is skipped. -/
theorem firstUsable_cons_of_not {content : Option Text} {contents : List (Option Text)}
    (h : isUsable content = false) : firstUsable (content :: contents) = firstUsable contents := by
  rw [firstUsable, List.find?_cons_of_neg (by simp [h]), firstUsable]

/-- A usable content is taken. -/
theorem firstUsable_cons_of_pos {content : Text} {contents : List (Option Text)}
    (h : isUsable (some content) = true) :
    firstUsable (some content :: contents) = some content := by
  rw [firstUsable, List.find?_cons_of_pos h, Option.join_some]

/-- A content can be used if it is there and holds a character that is not blank. -/
theorem isUsable_some_iff {content : Text} : isUsable (some content) = true ↔ content.trim ≠ [] := by
  simp [isUsable]

/-- The content that is taken is one of the contents and usable. -/
theorem mem_of_firstUsable {contents : List (Option Text)} {content : Text}
    (h : firstUsable contents = some content) :
    some content ∈ contents ∧ isUsable (some content) = true := by
  rw [firstUsable, Option.join_eq_some_iff] at h
  exact ⟨List.mem_of_find?_eq_some h, List.find?_some h⟩

/-- If some content is usable, one is taken. -/
theorem exists_firstUsable {contents : List (Option Text)} {content : Option Text}
    (hmem : content ∈ contents) (h : isUsable content = true) :
    ∃ first, firstUsable contents = some first := by
  have hfind : (contents.find? isUsable).isSome = true := by
    rw [List.find?_isSome]
    exact ⟨content, hmem, h⟩
  obtain ⟨found, hfound⟩ := Option.isSome_iff_exists.mp hfind
  cases found with
  | none => cases List.find?_some hfound
  | some first => exact ⟨first, by rw [firstUsable, hfound, Option.join_some]⟩

/-- The first usable one of two lists of contents. -/
theorem firstUsable_append (a b : List (Option Text)) :
    firstUsable (a ++ b) = (firstUsable a).or (firstUsable b) := by
  induction a with
  | nil => rfl
  | cons content a ih =>
    rw [List.cons_append]
    cases h : isUsable content with
    | false => rw [firstUsable_cons_of_not h, firstUsable_cons_of_not h, ih]
    | true =>
      cases content with
      | none => cases h
      | some t => rw [firstUsable_cons_of_pos h, firstUsable_cons_of_pos h, Option.some_or]

/-! ## Parsed queries -/

/-- What a query says under a field that holds terms, which is nothing if the field is absent. -/
def readField (query : Text) (excludeNegated : Bool) (f : ListField) : TermExtraction :=
  (fieldExtraction query excludeNegated f).getD ⟨[], []⟩

/-- The scope that a parsed query states for a field. -/
def ParsedQuery.scope (p : ParsedQuery) : ScopeField → TimeScope
  | .jobTitle => p.timeScope
  | .company => p.companyTimeScope

theorem terms_parse (query : Text) (excludeNegated : Bool) (f : ListField) :
    (parse query excludeNegated).terms.get f = (readField query excludeNegated f).terms := by
  rw [parse, FieldLists.get_tabulate, readField]
  cases fieldExtraction query excludeNegated f <;> rfl

theorem operators_parse (query : Text) (excludeNegated : Bool) (f : ListField) :
    (parse query excludeNegated).operators.get f
      = (readField query excludeNegated f).operators.map Operator.name := by
  rw [parse, FieldLists.get_tabulate, readField]
  cases fieldExtraction query excludeNegated f <;> rfl

theorem scope_parse (query : Text) (excludeNegated : Bool) (f : ScopeField) :
    (parse query excludeNegated).scope f = extractTimeScope query f.label := by
  cases f <;> rfl

/-- What some contents say: what the first usable one says, or nothing. -/
def readContents (excludeNegated : Bool) (contents : List (Option Text)) : TermExtraction :=
  ((firstUsable contents).map (extractTerms · excludeNegated)).getD ⟨[], []⟩

theorem readField_eq_readContents (query : Text) (excludeNegated : Bool) (f : ListField) :
    readField query excludeNegated f
      = readContents excludeNegated ((remainders f.label query).map (contentOf f.label)) := by
  rw [readField, fieldExtraction, extractField_eq_firstUsable, readContents]

/-- A content that is not usable says nothing. -/
theorem readContents_cons_of_not {content : Option Text} {contents : List (Option Text)}
    (excludeNegated : Bool) (h : isUsable content = false) :
    readContents excludeNegated (content :: contents) = readContents excludeNegated contents := by
  rw [readContents, firstUsable_cons_of_not h, readContents]

/-- Behind a usable content the others do not matter. -/
theorem readContents_cons_of_pos {content : Text} (contents : List (Option Text))
    (excludeNegated : Bool) (h : isUsable (some content) = true) :
    readContents excludeNegated (some content :: contents)
      = extractTerms content excludeNegated := by
  rw [readContents, firstUsable_cons_of_pos h, Option.map_some, Option.getD_some]

/-- A content alone is read, usable or not: a blank one says nothing. -/
theorem readContents_singleton (content : Text) (excludeNegated : Bool) :
    readContents excludeNegated [some content] = extractTerms content excludeNegated := by
  cases h : isUsable (some content) with
  | true => exact readContents_cons_of_pos [] excludeNegated h
  | false =>
    have htrim : content.trim = [] := by
      by_contra hne
      rw [isUsable_some_iff.mpr hne] at h
      cases h
    rw [readContents_cons_of_not _ h, extractTerms_of_trim_eq_nil htrim]
    rfl

/-- Later contents are read if none of the earlier ones is usable. -/
theorem readContents_append (excludeNegated : Bool) (a b : List (Option Text)) :
    readContents excludeNegated (a ++ b)
      = if firstUsable a = none then readContents excludeNegated b
        else readContents excludeNegated a := by
  rw [readContents, firstUsable_append, readContents, readContents]
  cases firstUsable a <;> rfl

/-- An absent field says nothing. -/
theorem readField_of_none {query : Text} {f : ListField} (excludeNegated : Bool)
    (h : extractField query f.label = none) :
    readField query excludeNegated f = ⟨[], []⟩ := by
  rw [readField, fieldExtraction, h, Option.map_none, Option.getD_none]

/-- A field says what its content says. -/
theorem readField_of_some {query content : Text} {f : ListField} (excludeNegated : Bool)
    (h : extractField query f.label = some content) :
    readField query excludeNegated f = extractTerms content excludeNegated := by
  rw [readField, fieldExtraction, h, Option.map_some, Option.getD_some]

/-! ## Groups and trailing text -/

/-- Text trails the group of a clause for keywords alone. -/
theorem takesTrailingText_label (f : ListField) :
    takesTrailingText f.label = decide (f = .keywords) := by
  cases f <;> decide +kernel

/-- The content of a clause of keywords that is a closed group. -/
theorem content_of_group {c : Clause} {inner tail : Text} (hbody : c.body = .group inner tail) :
    c.content (ListField.label .keywords) = some (joinTrailing inner tail) := by
  rw [Clause.content, hbody, takesTrailingText_label]
  rfl

/-- What follows a closed group, up to the next marker. -/
theorem contentOf_group (f : ListField) {t inner beyond : Text}
    (h : splitGroup 1 t = some (inner, beyond)) :
    contentOf f.label ('(' :: t)
      = some (if f = .keywords then joinTrailing inner (beyond.take (nextMarker beyond))
          else inner) := by
  rw [contentOf, bodyOf_group h, Clause.content, takesTrailingText_label]
  by_cases hf : f = .keywords <;> simp [hf]

/-- A group that is never closed contributes nothing. -/
theorem contentOf_unclosed (label : Text) {t : Text} (h : splitGroup 1 t = none) :
    contentOf label ('(' :: t) = none := by
  rw [contentOf, bodyOf_unclosed h, Clause.content]

/-- Text without parentheses is trimmed. -/
theorem contentOf_plain (label : Text) {r : Text} (h : r.head? ≠ some '(') :
    contentOf label r = some (Text.trim (r.take (plainLength r))) := by
  rw [contentOf, bodyOf_plain h, Clause.content]

/-- A group stands at the beginning of what it is joined to. -/
theorem trim_inner_of_joinTrailing {inner tail : Text}
    (h : Text.trim (joinTrailing inner tail) = []) : inner.trim = [] := by
  rw [joinTrailing] at h
  split_ifs at h
  · exact h
  · exact Text.trim_eq_nil_of_append h

/-- **A group and the text that trails it are read one after the other**: neither a word nor a
phrase crosses the seam. -/
theorem lexemes_joinTrailing {depth : Int} {t inner beyond : Text} (tail : Text)
    (h : splitGroup depth t = some (inner, beyond)) (htail : tail <+: beyond) :
    lexemes (joinTrailing inner tail) = lexemes inner ++ lexemes tail.trim := by
  rw [joinTrailing]
  by_cases hnil : tail.trim = []
  · rw [hnil, List.isEmpty_nil, if_pos rfl, lexemes_nil, List.append_nil]
  · rw [if_neg (by simpa using hnil), lexemes_append, lexemes_space]
    · exact beginsApart_cons _ (by decide)
    · refine (quotes_of_splitGroup h).imp_right fun hq hmem => hq ?_
      rcases List.mem_cons.mp hmem with hspace | hmem
      · cases hspace
      · exact htail.subset ((Text.trim_isInfix tail).subset hmem)

/-- **What a group says comes first**, and what trails it adds the terms that are new. -/
theorem terms_joinTrailing {depth : Int} {t inner beyond : Text} (tail : Text)
    (h : splitGroup depth t = some (inner, beyond)) (htail : tail <+: beyond) :
    (extractTerms (joinTrailing inner tail) false).terms
      = (extractTerms inner false).terms ++ (extractTerms tail.trim false).terms.filter
          (!(extractTerms inner false).terms.contains ·) := by
  rw [terms_extractTerms_false, terms_extractTerms_false, terms_extractTerms_false,
    lexemes_joinTrailing tail h htail, List.filterMap_append, eraseDups_append_eq_filter]

/-- The operators of a group come first. -/
theorem scanOperators_joinTrailing (inner tail : Text) :
    scanOperators (joinTrailing inner tail) = scanOperators inner ++ scanOperators tail.trim := by
  rw [joinTrailing]
  by_cases hnil : tail.trim = []
  · rw [hnil, List.isEmpty_nil, if_pos rfl]
    exact (List.append_nil _).symm
  · rw [if_neg (by simpa using hnil), scanOperators_append_cons _ _ (by decide)]

/-- **A term of a clause is a stretch of what follows its marker.** -/
theorem isTerm_of_mem_contentOf {f : ListField} {r content t : Text} {excludeNegated : Bool}
    (hcontent : contentOf f.label r = some content)
    (ht : t ∈ (extractTerms content excludeNegated).terms) : IsTerm t ∧ t <:+: r := by
  obtain ⟨l, hl, hterm⟩ := exists_lexeme_of_mem_terms ht
  -- it is enough that the lexeme is read in some stretch of the text
  suffices hread : ∃ s, s <:+: r ∧ l ∈ lexemes s by
    obtain ⟨s, hs, hls⟩ := hread
    obtain ⟨hwell, hin⟩ := isTerm_of_mem_lexemes hls hterm
    exact ⟨hwell, hin.trans hs⟩
  by_cases hhead : r.head? = some '('
  · obtain ⟨u, rfl⟩ := List.head?_eq_some_iff.mp hhead
    cases hsplit : splitGroup 1 u with
    | none =>
      rw [contentOf_unclosed _ hsplit] at hcontent
      cases hcontent
    | some parts =>
      obtain ⟨inner, beyond⟩ := parts
      have hu : u = inner ++ ')' :: beyond := splitGroup_eq_some hsplit
      have hinner : inner <:+: '(' :: u := ⟨['('], ')' :: beyond, by rw [hu]; simp⟩
      have hbeyond : beyond <:+: '(' :: u := ⟨'(' :: (inner ++ [')']), [], by rw [hu]; simp⟩
      have htail : beyond.take (nextMarker beyond) <+: beyond := List.take_prefix _ _
      rw [contentOf_group f hsplit, Option.some.injEq] at hcontent
      by_cases hf : f = .keywords
      · rw [if_pos hf] at hcontent
        rw [← hcontent, lexemes_joinTrailing _ hsplit htail, List.mem_append] at hl
        rcases hl with hl | hl
        · exact ⟨inner, hinner, hl⟩
        · exact ⟨_, ((Text.trim_isInfix _).trans htail.isInfix).trans hbeyond, hl⟩
      · rw [if_neg hf] at hcontent
        exact ⟨inner, hinner, hcontent ▸ hl⟩
  · rw [contentOf_plain _ hhead, Option.some.injEq] at hcontent
    exact ⟨content, hcontent ▸ (Text.trim_isInfix _).trans (List.take_prefix _ _).isInfix, hl⟩

end CandidateSearch

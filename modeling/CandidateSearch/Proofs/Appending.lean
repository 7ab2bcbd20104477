import CandidateSearch.Proofs.Clauses
import CandidateSearch.Proofs.Scopes
import CandidateSearch.Query.Record

/-!
# Appending a clause

A clause that is appended to a query disturbs nothing that the query says already, however malformed
the query is: the comma in front ends scalars and plain text, the marker ends what trails a group of
keywords, and the clause closes no group and no phrase.

* `remainders_append_appendix`: the appended clause is one more remainder of its own label;
* `contentOf_append`, `BeginsClause.scalarOf_append`: what the query says already is read as before;
* `readField_keywords_append`: keywords may gain a comma at their end, which says nothing;
* `append_clause`: all of it together.
-/

namespace CandidateSearch

/-! ## Texts that set themselves off -/

/-- A text that begins with a comma, a blank and a marker, as every clause but the first does. -/
def BeginsClause (s : Text) : Prop := ∃ r, s = ',' :: ' ' :: r ∧ nextMarker r = 0

/-- A text that can be appended to any query: a clause begins there, without quotes, and nothing is
closed that was opened before. -/
structure SetsOff (s : Text) : Prop where
  /-- It begins with a clause. -/
  separated : BeginsClause s
  /-- It holds no quote. -/
  unquoted : '"' ∉ s
  /-- It closes no group that was open before it. -/
  opens : ∀ depth, 1 ≤ depth → splitGroup depth s = none

/-- A clause with a comma and a blank in front, as it is appended to a query. -/
def appendix (f : Field) (value : Text) : Text := ',' :: ' ' :: (f.marker ++ value)

/-- A clause begins where it is appended. -/
theorem beginsClause_appendix (f : Field) (value rest : Text) :
    BeginsClause (appendix f value ++ rest) :=
  ⟨f.marker ++ value ++ rest, rfl, by rw [List.append_assoc, nextMarker_marker]⟩

/-- A marker holds no quotes and no parentheses. -/
theorem Field.plain_of_mem_marker (f : Field) {c : Char} (h : c ∈ f.marker) :
    c ≠ '"' ∧ c ≠ '(' ∧ c ≠ ')' := by
  rw [Field.marker, List.mem_cons, List.mem_append, List.mem_singleton] at h
  rcases h with rfl | h | rfl
  · decide
  · have hends := not_endsLabel_of_mem_label f c h
    refine ⟨?_, ?_, ?_⟩ <;> (rintro rfl; exact absurd hends (by decide))
  · decide

/-- A clause can be appended if its value holds no quotes and closes nothing from outside. -/
theorem setsOff_appendix (f : Field) {value : Text} (hquote : '"' ∉ value)
    (hopens : ∀ depth, 1 ≤ depth → splitGroup depth value = none) :
    SetsOff (appendix f value) where
  separated := by
    have hbegins := beginsClause_appendix f value []
    rwa [List.append_nil] at hbegins
  unquoted := by
    rw [appendix, List.mem_cons, List.mem_cons, List.mem_append]
    rintro (h | h | h | h)
    · cases h
    · cases h
    · exact (f.plain_of_mem_marker h).1 rfl
    · exact hquote h
  opens depth hdepth := by
    have hfront : ∀ c ∈ ',' :: ' ' :: f.marker, c ≠ '"' ∧ c ≠ '(' ∧ c ≠ ')' := by
      intro c hc
      rw [List.mem_cons, List.mem_cons] at hc
      rcases hc with rfl | rfl | hc
      · decide
      · decide
      · exact f.plain_of_mem_marker hc
    show splitGroup depth ((',' :: ' ' :: f.marker) ++ value) = none
    rw [splitGroup_append_plain value hdepth hfront, hopens depth hdepth, Option.map_none]

/-- A group in parentheses closes nothing from outside. -/
theorem splitGroup_inParentheses {x : Text} {depth : Int} (hdepth : 1 ≤ depth) (hx : '"' ∉ x)
    (hbalanced : Balanced x) : splitGroup depth (inParentheses x) = none := by
  have hweight : parenthesisWeight '(' = 1 := rfl
  have hfirst : ¬ ('(' = ')' ∧ depth = 1) := fun h => absurd h.1 (by decide)
  have hlast : ¬ (')' = ')' ∧ depth + 1 = 1) := by omega
  rw [inParentheses, splitGroup_cons _ _ (by decide) hfirst, hweight, splitGroup_append_nested _ hx,
    hbalanced.1, Int.add_zero, splitGroup_cons _ _ (by decide) hlast, splitGroup_nil]
  · rfl
  · intro p hp
    have hp := hbalanced.2 p hp
    omega

/-- A text without parentheses and quotes closes nothing from outside. -/
theorem splitGroup_plain {x : Text} {depth : Int} (hdepth : 1 ≤ depth)
    (hx : ∀ c ∈ x, c ≠ '"' ∧ c ≠ '(' ∧ c ≠ ')') : splitGroup depth x = none := by
  have happend := splitGroup_append_plain [] hdepth hx
  rwa [List.append_nil, splitGroup_nil, Option.map_none] at happend

/-- What follows the markers in a clause that is appended. -/
theorem remainders_appendix (f g : Field) {value : Text} (hplus : '+' ∉ value) :
    remainders g.label (appendix f value) = if g = f then [value.trimStart] else [] := by
  have hskip : remainders g.label (appendix f value) = remainders g.label (f.marker ++ value) :=
    remainders_append_of_not_mem_plus (t := [',', ' ']) (f.marker ++ value) (by decide)
  rw [hskip]
  by_cases hfg : g = f
  · have hstart : '+' ∉ value.trimStart := fun h =>
      hplus ((List.dropWhile_suffix isBlank).subset h)
    rw [if_pos hfg, hfg, remainders_marker_self, remainders_of_not_mem_plus hstart]
  · rw [if_neg hfg, remainders_marker_of_ne hfg, remainders_of_not_mem_plus hplus]

/-- **An appended clause is one more remainder of its own label**, and of no other label. -/
theorem remainders_append_appendix (f g : Field) {value : Text} (hplus : '+' ∉ value)
    (query : Text) :
    remainders g.label (query ++ appendix f value)
      = (remainders g.label query).map (· ++ appendix f value)
          ++ if g = f then [value.trimStart] else [] := by
  have hcomma : afterLabel? g.label (appendix f value) = none :=
    afterLabel?_cons_ne _ (by decide)
  rw [← remainders_appendix f g hplus, appendix, remainders_append (isLabel_label g) rfl,
    ← appendix, appendix, remainders_cons hcomma]

/-! ## What is read as before -/

/-- What trails a group is the same in a longer text, unless it reaches the end: then a comma and a
blank are added. -/
theorem BeginsClause.take_nextMarker {s : Text} (hs : BeginsClause s) (b : Text) :
    (b ++ s).take (nextMarker (b ++ s))
      = if nextMarker b < b.length then b.take (nextMarker b) else b ++ [',', ' '] := by
  obtain ⟨r, rfl, hr⟩ := hs
  rw [nextMarker_append rfl, nextMarker_cons_ne r (by decide), hr]
  split_ifs with hlt
  · rw [List.take_append_of_le_length hlt.le]
  · rw [List.take_length_add_append]
    rfl

/-- Plain text ends at the comma. -/
theorem BeginsClause.take_plainLength {s : Text} (hs : BeginsClause s) (t : Text) :
    (t ++ s).take (plainLength (t ++ s)) = t.take (plainLength t) := by
  obtain ⟨r, rfl, -⟩ := hs
  have hbefore : Text.lengthBefore (· == ',') (t ++ ',' :: ' ' :: r)
      = Text.lengthBefore (· == ',') t := by
    rw [Text.lengthBefore, Text.lengthBefore, Text.takeWhile_append_cons_of_neg _ _ rfl]
  have hle : Text.lengthBefore (· == ',') t ≤ t.length := (List.takeWhile_prefix _).length_le
  have hplain : plainLength t ≤ t.length := le_trans (min_le_left _ _) hle
  have hlength : plainLength (t ++ ',' :: ' ' :: r) = plainLength t := by
    have hmarker := nextMarker_le_length t
    rw [plainLength, plainLength, hbefore, nextMarker_append rfl]
    split_ifs <;> omega
  rw [hlength, List.take_append_of_le_length hplain]

/-- A text that is appended does not put a parenthesis at the beginning. -/
theorem BeginsClause.head?_append {s : Text} (hs : BeginsClause s) {t : Text} (h : t.head? ≠ some '(') :
    (t ++ s).head? ≠ some '(' := by
  obtain ⟨r, rfl, -⟩ := hs
  cases t with
  | nil => simp
  | cons c t => simpa using h

/-- The value of a scalar ends at the comma. -/
theorem BeginsClause.scalarOf_append {s : Text} (hs : BeginsClause s) (r : Text) :
    scalarOf (r ++ s) = scalarOf r := by
  obtain ⟨t, rfl, -⟩ := hs
  rw [scalarOf, scalarOf, scalarAt, scalarAt, List.drop_zero, List.drop_zero,
    Text.takeWhile_append_cons_of_neg _ _ rfl]

/-- **The content of a clause is read as before** in a longer text, for every field but keywords. -/
theorem contentOf_append {s : Text} (hs : SetsOff s) {f : ListField} (hf : f ≠ .keywords) (r : Text) :
    contentOf f.label (r ++ s) = contentOf f.label r := by
  by_cases hhead : r.head? = some '('
  · obtain ⟨t, rfl⟩ := List.head?_eq_some_iff.mp hhead
    rw [List.cons_append]
    cases hsplit : splitGroup 1 t with
    | none =>
      -- an open group takes in what is appended and stays open
      have hopen := splitGroup_append_eq_none (Int.le_refl 1) hs.unquoted hs.opens hsplit
      rw [contentOf_unclosed _ hopen, contentOf_unclosed _ hsplit]
    | some parts =>
      obtain ⟨inner, beyond⟩ := parts
      have hlong := splitGroup_append hs.unquoted hsplit
      rw [contentOf_group f hlong, contentOf_group f hsplit, if_neg hf, if_neg hf]
  · rw [contentOf_plain _ (hs.separated.head?_append hhead), contentOf_plain _ hhead, hs.separated.take_plainLength]

/-- **What a field says after a clause is appended**, for every field but keywords: the clause
counts only if it is one of the field and the field said nothing before. -/
theorem readField_append_appendix {f : Field} {g : ListField} {value : Text}
    (hs : SetsOff (appendix f value)) (hplus : '+' ∉ value) (hg : g ≠ .keywords) (query : Text)
    (excludeNegated : Bool) :
    readField (query ++ appendix f value) excludeNegated g
      = if extractField query g.label = none ∧ Field.list g = f then
          readContents excludeNegated [contentOf g.label value.trimStart]
        else readField query excludeNegated g := by
  have hmap : ((remainders g.label query).map (· ++ appendix f value)).map (contentOf g.label)
      = (remainders g.label query).map (contentOf g.label) := by
    rw [List.map_map]
    exact List.map_congr_left fun r _ => contentOf_append hs hg r
  have hall := remainders_append_appendix f (.list g) hplus query
  rw [Field.label] at hall
  rw [readField_eq_readContents, hall, List.map_append, hmap, readContents_append,
    ← extractField_eq_firstUsable, ← readField_eq_readContents]
  by_cases hnone : extractField query g.label = none
  · by_cases hfg : Field.list g = f
    · rw [if_pos hnone, if_pos hfg, if_pos ⟨hnone, hfg⟩, List.map_singleton]
    · rw [if_pos hnone, if_neg hfg, if_neg (fun h => hfg h.2), readField_of_none _ hnone]
      rfl
  · rw [if_neg hnone, if_neg (fun h => hnone h.1)]

/-- The scalar of a label after a clause is appended. -/
theorem extractScalar_append_appendix {f : Field} {g : ScopeField} {value : Text}
    (hs : SetsOff (appendix f value)) (hplus : '+' ∉ value) (query : Text) :
    extractScalar (query ++ appendix f value) g.label
      = (extractScalar query g.label).or
          (if Field.scope g = f then [scalarOf value.trimStart].find? (!·.isEmpty) else none) := by
  have hmap : ((remainders g.label query).map (· ++ appendix f value)).map scalarOf
      = (remainders g.label query).map scalarOf := by
    rw [List.map_map]
    exact List.map_congr_left fun r _ => hs.separated.scalarOf_append r
  have hall := remainders_append_appendix f (.scope g) hplus query
  rw [Field.label] at hall
  rw [extractScalar_eq_find?, hall, List.map_append, hmap, List.find?_append,
    ← extractScalar_eq_find?]
  congr 1
  split_ifs <;> rfl

/-! ## Keywords -/

/-- A text with a comma and a blank behind it is trimmed to the same text and a separator. -/
theorem trim_append_comma (b : Text) :
    ∃ z, IsSeparator z ∧ Text.trim (b ++ [',', ' ']) = b.trim ++ z ∧ ',' ∈ z := by
  have htrim : Text.trim (b ++ [',', ' ']) = b.trimStart ++ [','] := by
    have hstart : Text.trimStart (b ++ [',', ' ']) = (b.trimStart ++ [',']) ++ [' '] := by
      rw [Text.trimStart_append_cons b [' '] (by decide), List.append_assoc]
      rfl
    rw [Text.trim, hstart, Text.trimEnd_append_blank _ (by decide),
      Text.trimEnd_append_singleton _ (by decide)]
  have hblanks : ∀ c ∈ b.trimStart.rtakeWhile isBlank, isBlank c = true := by
    intro c hc
    exact List.mem_rtakeWhile_imp hc
  refine ⟨b.trimStart.rtakeWhile isBlank ++ [','], ?_, ?_, by simp⟩
  · intro c hc
    rcases List.mem_append.mp hc with hc | hc
    · exact Or.inl (hblanks c hc)
    · exact Or.inr (List.mem_singleton.mp hc)
  · rw [htrim, ← List.append_assoc, Text.trim, Text.trimEnd_eq_rdropWhile,
      List.rdropWhile_append_rtakeWhile]

/-- **What trails a group of keywords may gain a comma**, and nothing else. -/
theorem joinTrailing_append_comma (inner b : Text) :
    ∃ z, IsSeparator z ∧ joinTrailing inner (b ++ [',', ' ']) = joinTrailing inner b ++ z := by
  obtain ⟨z, hz, htrim, hcomma⟩ := trim_append_comma b
  have hne : Text.trim (b ++ [',', ' ']) ≠ [] := by
    rw [htrim]
    exact List.append_ne_nil_of_right_ne_nil _ (List.ne_nil_of_mem hcomma)
  rw [joinTrailing, joinTrailing, if_neg (by simpa using hne), htrim]
  by_cases hb : b.trim = []
  · refine ⟨' ' :: z, fun c hc => ?_, by rw [hb]; rfl⟩
    rcases List.mem_cons.mp hc with rfl | hc
    · exact Or.inl (by decide)
    · exact hz c hc
  · refine ⟨z, hz, ?_⟩
    rw [if_neg (by simpa using hb), List.append_assoc, List.cons_append]

/-- The content of a clause of keywords is read as before in a longer text, unless a closed group is
the last thing that the query says: then it may gain a separator. -/
theorem contentOf_keywords_append {s : Text} (hs : SetsOff s) (r : Text) :
    contentOf (ListField.label .keywords) (r ++ s) = contentOf (ListField.label .keywords) r ∨
      ∃ inner beyond z, r = '(' :: (inner ++ ')' :: beyond) ∧ nextMarker beyond = beyond.length ∧
        IsSeparator z ∧
        contentOf (ListField.label .keywords) r = some (joinTrailing inner beyond) ∧
        contentOf (ListField.label .keywords) (r ++ s) = some (joinTrailing inner beyond ++ z) := by
  by_cases hhead : r.head? = some '('
  · obtain ⟨t, rfl⟩ := List.head?_eq_some_iff.mp hhead
    rw [List.cons_append]
    cases hsplit : splitGroup 1 t with
    | none =>
      have hopen := splitGroup_append_eq_none (Int.le_refl 1) hs.unquoted hs.opens hsplit
      exact Or.inl (by rw [contentOf_unclosed _ hopen, contentOf_unclosed _ hsplit])
    | some parts =>
      obtain ⟨inner, beyond⟩ := parts
      have hlong := splitGroup_append hs.unquoted hsplit
      rw [contentOf_group _ hlong, contentOf_group _ hsplit, if_pos rfl, if_pos rfl,
        hs.separated.take_nextMarker]
      by_cases hlt : nextMarker beyond < beyond.length
      · -- what trails the group ends at a marker of the query itself
        exact Or.inl (by rw [if_pos hlt])
      · -- what trails the group reaches the end of the query and gains the comma
        have hend : nextMarker beyond = beyond.length :=
          le_antisymm (nextMarker_le_length beyond) (not_lt.mp hlt)
        obtain ⟨z, hz, hjoin⟩ := joinTrailing_append_comma inner beyond
        refine Or.inr ⟨inner, beyond, z, ?_, hend, hz, ?_, ?_⟩
        · rw [splitGroup_eq_some hsplit]
        · rw [hend, List.take_length]
        · rw [if_neg hlt, hjoin]
  · refine Or.inl ?_
    rw [contentOf_plain _ (hs.separated.head?_append hhead), contentOf_plain _ hhead, hs.separated.take_plainLength]

/-- A blank group of keywords that nothing but text follows is the last clause of keywords. -/
theorem remainders_of_blank_group {label inner beyond : Text} (hlabel : IsLabel label)
    (hblank : Text.trim inner = []) (hend : nextMarker beyond = beyond.length) :
    remainders label ('(' :: (inner ++ ')' :: beyond)) = [] := by
  have hplus : '+' ∉ '(' :: inner := by
    rw [List.mem_cons, not_or]
    refine ⟨by decide, fun h => ?_⟩
    exact absurd (Text.trim_eq_nil_iff.mp hblank _ h) (by decide)
  rw [← List.cons_append, remainders_append hlabel rfl, remainders_of_not_mem_plus hplus,
    remainders_of_nextMarker hlabel hend]
  rfl

/-- **Keywords say the same in a longer text.** -/
theorem readContents_keywords_append {s : Text} (hs : SetsOff s) (excludeNegated : Bool)
    (t : Text) :
    readContents excludeNegated ((remainders (ListField.label .keywords) t).map fun r =>
        contentOf (ListField.label .keywords) (r ++ s))
      = readContents excludeNegated ((remainders (ListField.label .keywords) t).map
          (contentOf (ListField.label .keywords))) := by
  have hlabel : IsLabel (ListField.label .keywords) := isLabel_label (.list .keywords)
  -- clauses are dropped from the front for as long as they cannot be used
  induction t using marker_induction (ListField.label .keywords) with
  | nil => rw [remainders_nil, List.map_nil, List.map_nil]
  | other c rest h ih => rw [remainders_cons h, ih]
  | marker t r h ih =>
    rw [remainders_marker h, List.map_cons, List.map_cons]
    rcases contentOf_keywords_append hs r with
      hsame | ⟨inner, beyond, z, hr, hend, hz, hshort, hlong⟩
    · -- the same content is read, or skipped, in both texts
      rw [hsame]
      cases hcontent : contentOf (ListField.label .keywords) r with
      | none => rw [readContents_cons_of_not _ rfl, readContents_cons_of_not _ rfl, ih]
      | some content =>
        cases husable : isUsable (some content) with
        | true => rw [readContents_cons_of_pos _ _ husable, readContents_cons_of_pos _ _ husable]
        | false =>
          rw [readContents_cons_of_not _ husable, readContents_cons_of_not _ husable, ih]
    · rw [hshort, hlong]
      by_cases hblank : Text.trim (joinTrailing inner beyond) = []
      · -- a blank content may become usable, but then it is the last one
        rw [hr, remainders_of_blank_group hlabel (trim_inner_of_joinTrailing hblank) hend, List.map_nil, List.map_nil,
          readContents_singleton, readContents_singleton, extractTerms_append_separators _ hz]
      · -- a content that can be used stays the one that is read
        have hmore : Text.trim (joinTrailing inner beyond ++ z) ≠ [] := fun hnil =>
          hblank (Text.trim_eq_nil_of_append hnil)
        rw [readContents_cons_of_pos _ _ (isUsable_some_iff.mpr hblank),
          readContents_cons_of_pos _ _ (isUsable_some_iff.mpr hmore),
          extractTerms_append_separators _ hz]

/-- What keywords say after a clause of another field is appended. -/
theorem readField_keywords_append {f : Field} {value : Text} (hs : SetsOff (appendix f value))
    (hplus : '+' ∉ value) (hf : Field.list .keywords ≠ f) (query : Text) (excludeNegated : Bool) :
    readField (query ++ appendix f value) excludeNegated .keywords
      = readField query excludeNegated .keywords := by
  have hall := remainders_append_appendix f (.list .keywords) hplus query
  rw [if_neg hf, List.append_nil, Field.label] at hall
  rw [readField_eq_readContents, hall, List.map_map, readField_eq_readContents,
    ← readContents_keywords_append hs excludeNegated query]
  rfl

/-! ## Appending -/

/-- **A clause that is appended leaves every other field alone.** -/
theorem readField_append_of_ne {f : Field} {g : ListField} {value : Text}
    (hs : SetsOff (appendix f value)) (hplus : '+' ∉ value) (hg : Field.list g ≠ f) (query : Text)
    (excludeNegated : Bool) :
    readField (query ++ appendix f value) excludeNegated g = readField query excludeNegated g := by
  by_cases hkeywords : g = .keywords
  · rw [hkeywords] at hg ⊢
    exact readField_keywords_append hs hplus hg query excludeNegated
  · rw [readField_append_appendix hs hplus hkeywords, if_neg (fun h => hg h.2)]

/-- A clause that is appended leaves the scope of every other field alone. -/
theorem extractScalar_append_of_ne {f : Field} {g : ScopeField} {value : Text}
    (hs : SetsOff (appendix f value)) (hplus : '+' ∉ value) (hg : Field.scope g ≠ f)
    (query : Text) :
    extractScalar (query ++ appendix f value) g.label = extractScalar query g.label := by
  rw [extractScalar_append_appendix hs hplus, if_neg hg, Option.or_none]

/-- A group in parentheses that is appended is the content of its field. -/
theorem contentOf_inParentheses {f : ListField} (hf : f ≠ .keywords) {x : Text} (hx : '"' ∉ x)
    (hbalanced : Balanced x) :
    contentOf f.label (Text.trimStart (inParentheses x)) = some x := by
  rw [inParentheses, Text.trimStart_cons _ (by decide),
    contentOf_group f (splitGroup_balanced [] hx hbalanced), if_neg hf]

/-- **The scope that a value asks for** is the same once the value has been read as a scalar. -/
theorem resolve_scalarOf {v : Text} (hv : ∀ c ∈ v, c ≠ ',' ∧ c ≠ '+') :
    TimeScope.resolve ([scalarOf v.trimStart].find? (!·.isEmpty))
      = TimeScope.resolve (some v) := by
  have hall : ∀ c ∈ v.trimStart, (c != ',' && c != '+') = true := by
    intro c hc
    obtain ⟨hcomma, hplus⟩ := hv c ((List.dropWhile_suffix isBlank).subset hc)
    simp [hcomma, hplus]
  have hscalar : scalarOf v.trimStart = v.trim.lower := by
    rw [scalarOf, scalarAt, List.drop_zero, List.takeWhile_eq_self_iff.mpr hall, Text.trim,
      Text.trimStart, Text.trimStart, List.dropWhile_idempotent]
    rfl
  rw [hscalar, ← resolve_scalar v]
  cases v.trim.lower <;> rfl

/-- What a parsed query says under a field: its terms and its operators. -/
def ParsedQuery.stated (p : ParsedQuery) (f : ListField) : List Text × List Text :=
  (p.terms.get f, p.operators.get f)

/-- The terms and the names of the operators of a content. -/
def TermExtraction.stated (e : TermExtraction) : List Text × List Text :=
  (e.terms, e.operators.map Operator.name)

theorem stated_parse (query : Text) (excludeNegated : Bool) (f : ListField) :
    (parse query excludeNegated).stated f = (readField query excludeNegated f).stated := by
  rw [ParsedQuery.stated, terms_parse, operators_parse, TermExtraction.stated]

/-- Two lists of every field are the same if they agree on every field. -/
theorem FieldLists.ext_get {a b : FieldLists} (h : ∀ f, a.get f = b.get f) : a = b := by
  cases a
  cases b
  rw [FieldLists.mk.injEq]
  exact ⟨h .keywords, h .jobTitle, h .jobOccupation, h .company, h .location⟩

/-- The second parsed query says the same as the first, except perhaps under one field. -/
structure DiffersInField (p p' : ParsedQuery) (f : ListField) : Prop where
  /-- Every other field has the same terms and operators. -/
  stated : ∀ g ≠ f, p'.stated g = p.stated g
  /-- Both time scopes are the same. -/
  scope : ∀ g, p'.scope g = p.scope g

/-- The second parsed query says the same as the first, except perhaps for one time scope. -/
structure DiffersInScope (p p' : ParsedQuery) (f : ScopeField) : Prop where
  /-- Every field has the same terms. -/
  terms : p'.terms = p.terms
  /-- Every field has the same operators. -/
  operators : p'.operators = p.operators
  /-- The other time scope is the same. -/
  scope : ∀ g ≠ f, p'.scope g = p.scope g
  /-- The search backend is sent the same payload. -/
  payload : (compileFilters p').payload = (compileFilters p).payload

/-- What a query says after a clause in parentheses is appended. -/
theorem append_list_clause (query : Text) (excludeNegated : Bool) (f : ListField) {x : Text}
    (hquote : '"' ∉ x) (hplus : '+' ∉ x) (hbalanced : Balanced x) :
    DiffersInField (parse query excludeNegated)
        (parse (query ++ appendix (.list f) (inParentheses x)) excludeNegated) f ∧
      (f ≠ .keywords →
        (parse (query ++ appendix (.list f) (inParentheses x)) excludeNegated).stated f
          = if extractField query f.label = none then (extractTerms x excludeNegated).stated
            else (parse query excludeNegated).stated f) := by
  have hquote' : '"' ∉ inParentheses x := by simp [inParentheses, hquote]
  have hplus' : '+' ∉ inParentheses x := by simp [inParentheses, hplus]
  have hs : SetsOff (appendix (.list f) (inParentheses x)) :=
    setsOff_appendix (.list f) hquote' fun depth hdepth =>
      splitGroup_inParentheses hdepth hquote hbalanced
  refine ⟨⟨fun g hg => ?_, fun g => ?_⟩, fun hf => ?_⟩
  · have hne : Field.list g ≠ .list f := fun h => hg (Field.list.inj h)
    rw [stated_parse, stated_parse, readField_append_of_ne hs hplus' hne]
  · have hne : Field.scope g ≠ .list f := by
      intro h
      cases h
    rw [scope_parse, scope_parse, extractTimeScope, extractTimeScope,
      extractScalar_append_of_ne hs hplus' hne]
  · rw [stated_parse, stated_parse, readField_append_appendix hs hplus' hf,
      contentOf_inParentheses hf hquote hbalanced, readContents_singleton]
    by_cases hnone : extractField query f.label = none
    · rw [if_pos ⟨hnone, rfl⟩, if_pos hnone]
    · rw [if_neg (fun h => hnone h.1), if_neg hnone]

/-- What a query says after a time scope is appended. -/
theorem append_scope_clause (query : Text) (excludeNegated : Bool) (f : ScopeField) {v : Text}
    (hv : ∀ c ∈ v, c ∉ ['"', '(', ')', ',', '+']) :
    DiffersInScope (parse query excludeNegated)
        (parse (query ++ appendix (.scope f) v) excludeNegated) f ∧
      (parse (query ++ appendix (.scope f) v) excludeNegated).scope f
        = if extractScalar query f.label = none then .resolve (some v)
          else (parse query excludeNegated).scope f := by
  have hplain : ∀ c ∈ v, c ≠ '"' ∧ c ≠ '(' ∧ c ≠ ')' := by
    intro c hc
    refine ⟨?_, ?_, ?_⟩ <;> (rintro rfl; exact hv _ hc (by decide))
  have hends : ∀ c ∈ v, c ≠ ',' ∧ c ≠ '+' := by
    intro c hc
    refine ⟨?_, ?_⟩ <;> (rintro rfl; exact hv _ hc (by decide))
  have hplus : '+' ∉ v := fun h => (hends _ h).2 rfl
  have hs : SetsOff (appendix (.scope f) v) :=
    setsOff_appendix (.scope f) (fun h => (hplain _ h).1 rfl) fun depth hdepth =>
      splitGroup_plain hdepth hplain
  have hread : ∀ g, readField (query ++ appendix (.scope f) v) excludeNegated g
      = readField query excludeNegated g := by
    intro g
    refine readField_append_of_ne hs hplus ?_ query excludeNegated
    intro h
    cases h
  have hterms : (parse (query ++ appendix (.scope f) v) excludeNegated).terms
      = (parse query excludeNegated).terms :=
    FieldLists.ext_get fun g => by rw [terms_parse, terms_parse, hread]
  have hoperators : (parse (query ++ appendix (.scope f) v) excludeNegated).operators
      = (parse query excludeNegated).operators :=
    FieldLists.ext_get fun g => by rw [operators_parse, operators_parse, hread]
  refine ⟨⟨hterms, hoperators, fun g hg => ?_, ?_⟩, ?_⟩
  · have hne : Field.scope g ≠ .scope f := fun h => hg (Field.scope.inj h)
    rw [scope_parse, scope_parse, extractTimeScope, extractTimeScope,
      extractScalar_append_of_ne hs hplus hne]
  · rw [compileFilters, compileFilters, hterms]
  · rw [scope_parse, scope_parse, extractTimeScope, extractTimeScope,
      extractScalar_append_appendix hs hplus, if_pos rfl]
    by_cases hnone : extractScalar query f.label = none
    · rw [if_pos hnone, hnone, Option.none_or, resolve_scalarOf hends]
    · obtain ⟨value, hvalue⟩ := Option.ne_none_iff_exists'.mp hnone
      rw [if_neg hnone, hvalue, Option.some_or]

/-- **Appending a clause is a frame operation.**  Whatever the query, a balanced group that is
appended changes at most its own field, which it determines if the field said nothing before; a time
scope that is appended changes at most itself, and the payload not at all. -/
theorem append_clause (query : Text) (excludeNegated : Bool) :
    (∀ (f : ListField) (x : Text), '"' ∉ x → '+' ∉ x → Balanced x →
      DiffersInField (parse query excludeNegated)
          (parse (query ++ appendix (.list f) (inParentheses x)) excludeNegated) f ∧
        (f ≠ .keywords →
          (parse (query ++ appendix (.list f) (inParentheses x)) excludeNegated).stated f
            = if extractField query f.label = none then (extractTerms x excludeNegated).stated
              else (parse query excludeNegated).stated f)) ∧
    (∀ (f : ScopeField) (v : Text), (∀ c ∈ v, c ∉ ['"', '(', ')', ',', '+']) →
      DiffersInScope (parse query excludeNegated)
          (parse (query ++ appendix (.scope f) v) excludeNegated) f ∧
        (parse (query ++ appendix (.scope f) v) excludeNegated).scope f
          = if extractScalar query f.label = none then .resolve (some v)
            else (parse query excludeNegated).scope f) :=
  ⟨fun f _ hquote hplus hbalanced =>
      append_list_clause query excludeNegated f hquote hplus hbalanced,
    fun f _ hv => append_scope_clause query excludeNegated f hv⟩

/-- A query with a quote that has no partner and a group that is never closed. -/
def brokenQuery : Text := "+Keywords:(lean) \"proof +Job title:((engineer".toList

/-- Clauses appended to the broken query are read, and its keywords stay as they were. -/
theorem append_clause_brokenQuery :
    ((parse (brokenQuery ++ appendix (.list .company) (inParentheses "Acme (UK)".toList))
        false).stated .company = (["Acme".toList, "UK".toList], [])) ∧
      ((parse (brokenQuery ++ appendix (.list .company) (inParentheses "Acme (UK)".toList))
        false).stated .keywords = (["lean".toList, "proof".toList], [])) ∧
      ((parse (brokenQuery ++ appendix (.scope .jobTitle) "Past".toList) false).scope .jobTitle
        = .past) ∧
      ((parse (brokenQuery ++ appendix (.scope .jobTitle) "Past".toList) false).terms
        = (parse brokenQuery false).terms) := by
  obtain ⟨hlist, hscope⟩ := append_clause brokenQuery false
  obtain ⟨hothers, hown⟩ :=
    hlist .company "Acme (UK)".toList (by decide) (by decide) (by decide)
  obtain ⟨hrest, hpast⟩ := hscope .jobTitle "Past".toList (Text.forall_mem_of_all (by decide))
  refine ⟨?_, ?_, ?_, hrest.terms⟩
  · rw [hown (by decide)]
    decide +kernel
  · rw [hothers.stated .keywords (by decide)]
    decide +kernel
  · rw [hpast]
    decide +kernel

end CandidateSearch

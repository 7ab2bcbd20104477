import CandidateSearch.Proofs.Acceptance
import CandidateSearch.Proofs.Appending

/-!
# Which clause of a field is read

A field may have several clauses, and the first one that is closed and not blank is read, whether it
yields a term or not.  A clause without terms is therefore passed over only if its content is blank:
one that holds operators or punctuation alone hides the clauses behind it, although validation
reports its value as empty, and so does an empty group of keywords, to which the comma behind it is
joined.  Where validation reports no empty value, the first closed clause is the one that is read.

* `readContents_of_first`, `readContents_of_hidden`: what is read, given the first content that
  yields a term;
* `terms_parse_iff_not_hidden`: when the first clause with terms is the one that is read;
* `terms_parse_of_no_emptyValue`: what is read where validation does not call a value empty;
* `keywords_hidden_by_empty_group`: an empty group of keywords hides the keywords behind it.
-/

namespace CandidateSearch

/-! ## The first content with terms -/

/-- A content is there and yields a term. -/
def yieldsTerm (content : Option Text) : Bool :=
  match content with
  | some t => !(extractTerms t false).terms.isEmpty
  | none => false

/-- A content that is there yields a term or none. -/
theorem yieldsNoTerm_of_isUsable {content : Option Text} (h : isUsable content = true)
    (hnone : yieldsTerm content = false) : yieldsNoTerm content = true := by
  cases content with
  | none => cases h
  | some t =>
    unfold yieldsTerm at hnone
    unfold yieldsNoTerm
    rwa [Bool.not_eq_false'] at hnone

/-- No content is taken exactly if none can be used. -/
theorem firstUsable_eq_none_iff {contents : List (Option Text)} :
    firstUsable contents = none ↔ ∀ c ∈ contents, isUsable c = false := by
  constructor
  · intro h c hc
    rw [Bool.eq_false_iff]
    intro husable
    obtain ⟨first, hfirst⟩ := exists_firstUsable hc husable
    rw [h] at hfirst
    cases hfirst
  · intro h
    rw [Option.eq_none_iff_forall_ne_some]
    intro first hfirst
    obtain ⟨hmem, husable⟩ := mem_of_firstUsable hfirst
    rw [h _ hmem] at husable
    cases husable

section First

variable {before after : List (Option Text)} {content : Text}

/-- **What is read if the first content with terms can be reached**: that content. -/
theorem readContents_of_first (hterms : (extractTerms content false).terms ≠ [])
    (h : ∀ c ∈ before, isUsable c = false) :
    readContents false (before ++ some content :: after) = extractTerms content false := by
  rw [readContents_append, if_pos (firstUsable_eq_none_iff.mpr h)]
  exact readContents_cons_of_pos after false (isUsable_of_terms_ne_nil hterms)

/-- **What is read if a content without terms stands in the way**: no term at all. -/
theorem readContents_of_hidden (hbefore : ∀ c ∈ before, yieldsTerm c = false)
    (h : ∃ c ∈ before, isUsable c = true) :
    (readContents false (before ++ some content :: after)).terms = [] := by
  obtain ⟨c, hc, husable⟩ := h
  obtain ⟨first, hfirst⟩ := exists_firstUsable hc husable
  have hne : firstUsable before ≠ none := by
    rw [hfirst]
    exact Option.some_ne_none first
  -- the content that is taken is one of those in front, so it yields no term
  have hnone := hbefore _ (mem_of_firstUsable hfirst).1
  rw [readContents_append, if_neg hne, readContents, hfirst]
  simpa [yieldsTerm] using hnone

end First

/-! ## The first clause with terms -/

/-- What a field says, from the contents of its clauses. -/
theorem readField_eq_clauseContents (query : Text) (excludeNegated : Bool) (f : ListField) :
    readField query excludeNegated f
      = readContents excludeNegated (clauseContents query f.label) := by
  rw [readField_eq_readContents, clauseContents_eq_map]

/-- **When the first clause with terms is read.**  Its terms are those of the field exactly if every
clause in front of it is unclosed or blank.  Otherwise the field has no term at all, and validation
remarks on an empty value. -/
theorem terms_parse_iff_not_hidden {query : Text} {f : ListField}
    {before after : List (Option Text)} {content : Text}
    (hcontents : clauseContents query f.label = before ++ some content :: after)
    (hbefore : ∀ c ∈ before, yieldsTerm c = false)
    (hterms : (extractTerms content false).terms ≠ []) :
    ((parse query false).terms.get f = (extractTerms content false).terms ↔
        ∀ c ∈ before, isUsable c = false) ∧
      ((∃ c ∈ before, isUsable c = true) →
        (parse query false).terms.get f = [] ∧
          (Remark.emptyValue f).message ∈ (validate query).warnings) := by
  rw [terms_parse, readField_eq_clauseContents, hcontents]
  constructor
  · constructor
    · intro hread c hc
      rw [Bool.eq_false_iff]
      intro husable
      apply hterms
      rw [← hread]
      exact readContents_of_hidden hbefore ⟨c, hc, husable⟩
    · intro hreach
      rw [readContents_of_first hterms hreach]
  · rintro ⟨c, hc, husable⟩
    constructor
    · exact readContents_of_hidden hbefore ⟨c, hc, husable⟩
    · apply emptyValue_mem_warnings (c := c)
      · rw [hcontents]
        exact List.mem_append_left _ hc
      · exact yieldsNoTerm_of_isUsable husable (hbefore c hc)

/-- A query whose second clause says where, behind a clause of blanks. -/
def blankFirstQuery : Text := "+Location:( ), +Location:(Paris), +Location:(Rome)".toList

/-- The second clause is read where the first one is blank. -/
theorem terms_parse_blankFirstQuery :
    clauseContents blankFirstQuery (ListField.label .location)
        = [some " ".toList] ++ some "Paris".toList :: [some "Rome".toList] ∧
      (parse blankFirstQuery false).terms.get .location
        = (extractTerms "Paris".toList false).terms := by
  have hcontents : clauseContents blankFirstQuery (ListField.label .location)
      = [some " ".toList] ++ some "Paris".toList :: [some "Rome".toList] := by
    decide +kernel
  refine ⟨hcontents, ?_⟩
  apply (terms_parse_iff_not_hidden hcontents ?_ (by decide +kernel)).1.mpr
  · decide +kernel
  · decide +kernel

/-- **A clause without terms can hide a later one**: the terms of the first clause that yields any
need not be those of the field. -/
theorem exists_hidden_clause :
    ¬ ∀ (query : Text) (f : ListField) (before after : List (Option Text)) (content : Text),
      clauseContents query f.label = before ++ some content :: after →
        (∀ c ∈ before, yieldsTerm c = false) → (extractTerms content false).terms ≠ [] →
          (parse query false).terms.get f = (extractTerms content false).terms := by
  intro h
  have hread := h "+Keywords:(), +Keywords:(Rust)".toList .keywords [some " ,".toList] []
    "Rust".toList (by decide +kernel) (by decide +kernel) (by decide +kernel)
  revert hread
  decide +kernel

/-! ## Fields without an empty value -/

/-- The first clause of a label that is closed. -/
def firstClosed? (query label : Text) : Option Clause :=
  (clauses query label).find? (·.body != .unclosed)

/-- A label with a closed clause has a first one, and that one has a content. -/
theorem exists_firstClosed {query label : Text} {c : Clause} (hc : c ∈ clauses query label)
    (hclosed : c.body ≠ .unclosed) :
    ∃ first content, firstClosed? query label = some first ∧
      first.content label = some content := by
  have hfind : ((clauses query label).find? (·.body != .unclosed)).isSome = true := by
    rw [List.find?_isSome]
    exact ⟨c, hc, bne_iff_ne.mpr hclosed⟩
  obtain ⟨first, hfirst⟩ := Option.isSome_iff_exists.mp hfind
  have hbody : first.body ≠ .unclosed := by simpa using List.find?_some hfirst
  obtain ⟨content, hcontent⟩ :=
    Option.ne_none_iff_exists'.mp fun hnone => hbody (content_eq_none_iff.mp hnone)
  exact ⟨first, content, hfirst, hcontent⟩

section NoEmptyValue

variable {query content : Text} {f : ListField} {c : Clause}

/-- The first closed clause splits the contents, and nothing in front of it can be used. -/
theorem clauseContents_of_firstClosed (hfirst : firstClosed? query f.label = some c)
    (hcontent : c.content f.label = some content) :
    ∃ before after, clauseContents query f.label = before ++ some content :: after ∧
      ∀ b ∈ before, isUsable b = false := by
  obtain ⟨-, before, after, hsplit, hbefore⟩ := List.find?_eq_some_iff_append.mp hfirst
  refine ⟨before.map (Clause.content f.label), after.map (Clause.content f.label), ?_, ?_⟩
  · rw [clauseContents, hsplit, List.map_append, List.map_cons, hcontent]
  · intro b hb
    obtain ⟨clause, hclause, rfl⟩ := List.mem_map.mp hb
    have hunclosed : clause.body = .unclosed := by simpa using hbefore clause hclause
    rw [content_eq_none_iff.mpr hunclosed]
    rfl

/-- **The first closed clause is read**, and it yields terms, if validation does not remark on the
value of the field. -/
theorem terms_of_firstClosed (h : (Remark.emptyValue f).message ∉ (validate query).warnings)
    (hfirst : firstClosed? query f.label = some c) (hcontent : c.content f.label = some content) :
    (parse query false).terms.get f = (extractTerms content false).terms ∧
      (extractTerms content false).terms ≠ [] := by
  obtain ⟨before, after, hcontents, hbefore⟩ := clauseContents_of_firstClosed hfirst hcontent
  have hterms : (extractTerms content false).terms ≠ [] := by
    apply terms_ne_nil_of_not_mem_warnings h
    rw [hcontents]
    exact List.mem_append_right _ List.mem_cons_self
  refine ⟨?_, hterms⟩
  rw [terms_parse, readField_eq_clauseContents, hcontents, readContents_of_first hterms hbefore]

/-- **What a field says if validation does not call its value empty.**  It has no term exactly if
each of its clauses is a group that is never closed; if any clause is closed, its terms are those of
the first one that is. -/
theorem terms_parse_of_no_emptyValue
    (h : (Remark.emptyValue f).message ∉ (validate query).warnings) :
    ((parse query false).terms.get f = [] ↔ ∀ c ∈ clauses query f.label, c.body = .unclosed) ∧
      ((∃ c ∈ clauses query f.label, c.body ≠ .unclosed) →
        ∃ first content, firstClosed? query f.label = some first ∧
          first.content f.label = some content ∧
          (parse query false).terms.get f = (extractTerms content false).terms) := by
  constructor
  · constructor
    · intro hnil c hc
      by_contra hclosed
      obtain ⟨first, content, hfirst, hcontent⟩ := exists_firstClosed hc hclosed
      obtain ⟨hread, hterms⟩ := terms_of_firstClosed h hfirst hcontent
      exact hterms (hread.symm.trans hnil)
    · intro hall
      by_contra hne
      obtain ⟨c, hc, hclosed⟩ := exists_closed_of_terms_ne_nil hne
      exact hclosed (hall c hc)
  · rintro ⟨c, hc, hclosed⟩
    obtain ⟨first, content, hfirst, hcontent⟩ := exists_firstClosed hc hclosed
    exact ⟨first, content, hfirst, hcontent, (terms_of_firstClosed h hfirst hcontent).1⟩

end NoEmptyValue

/-- A query whose first location and whose only company are never closed. -/
def raggedQuery : Text :=
  "+Location:(Paris, +Location:Rome, +location:(Oslo), +Company:(Acme".toList

/-- The ragged query keeps its second location and loses its company. -/
theorem terms_parse_of_no_emptyValue_raggedQuery :
    (Remark.emptyValue .location).message ∉ (validate raggedQuery).warnings ∧
      (Remark.emptyValue .company).message ∉ (validate raggedQuery).warnings ∧
      (parse raggedQuery false).terms.get .location = ["Rome".toList] ∧
      (parse raggedQuery false).terms.get .company = [] := by
  have hwarnings : (validate raggedQuery).warnings
      = [(Remark.duplicateField (.list .location)).message] := by
    decide +kernel
  have hlocation : (Remark.emptyValue .location).message ∉ (validate raggedQuery).warnings := by
    rw [hwarnings]
    decide
  have hcompany : (Remark.emptyValue .company).message ∉ (validate raggedQuery).warnings := by
    rw [hwarnings]
    decide
  refine ⟨hlocation, hcompany, ?_, ?_⟩
  · obtain ⟨first, content, hfirst, hcontent, hread⟩ :=
      (terms_parse_of_no_emptyValue hlocation).2 (by decide +kernel)
    have hrome : firstClosed? raggedQuery (ListField.label .location)
        = some ⟨28, .plain "Rome".toList⟩ := by
      decide +kernel
    rw [hrome] at hfirst
    cases hfirst
    cases hcontent
    rw [hread]
    decide +kernel
  · exact (terms_parse_of_no_emptyValue hcompany).1.mpr (by decide +kernel)

/-! ## Empty groups of keywords -/

/-- A comma that trails a blank group is joined to it. -/
theorem contentOf_blank_keywords {blanks s : Text} (hblank : blanks.trim = [])
    (hs : BeginsClause s) :
    contentOf (ListField.label .keywords) ('(' :: (blanks ++ ')' :: s))
      = some (blanks ++ [' ', ',']) := by
  have hplain : ∀ c ∈ blanks, c ≠ '"' ∧ c ≠ '(' ∧ c ≠ ')' := fun c hc =>
    plain_of_isBlank (Text.trim_eq_nil_iff.mp hblank c hc)
  -- blanks neither open nor close anything, so the group ends at once
  have hsplit : splitGroup 1 (blanks ++ ')' :: s) = some (blanks, s) := by
    rw [splitGroup_append_plain _ (Int.le_refl 1) hplain, splitGroup_last, Option.map_some, inFront,
      List.append_nil]
  have htail := hs.take_nextMarker []
  rw [List.nil_append] at htail
  rw [contentOf_group .keywords hsplit, if_pos rfl, htail]
  rfl

/-- **An empty group of keywords hides the keywords behind it**: the comma that separates it from
the next clause counts as its content, so no later clause is read. -/
theorem keywords_hidden_by_empty_group {blanks : Text} (hblank : blanks.trim = []) (f : Field)
    (value : Text) :
    (parse ((Field.list .keywords).marker ++ '(' :: (blanks ++ ')' :: appendix f value))
      false).terms.get .keywords = [] := by
  have hbegins := beginsClause_appendix f value []
  rw [List.append_nil] at hbegins
  have hcontent := contentOf_blank_keywords hblank hbegins
  have hcomma : ∀ c ∈ [' ', ','], isBlank c = true ∨ c = ',' :=
    Text.forall_mem_of_all (by decide)
  have hseparator : IsSeparator (blanks ++ [' ', ',']) := by
    intro c hc
    rcases List.mem_append.mp hc with hc | hc
    · exact Or.inl (Text.trim_eq_nil_iff.mp hblank c hc)
    · exact hcomma c hc
  -- the comma is not blank, so this content is taken; a separator alone yields no terms
  have husable : isUsable (some (blanks ++ [' ', ','])) = true := by
    rw [isUsable_some_iff]
    intro hnil
    have hblank := Text.trim_eq_nil_iff.mp hnil ',' (by simp)
    exact absurd hblank (by decide)
  have hnothing := extractTerms_append_separators [] hseparator false
  have hremainders := remainders_marker_self (.list .keywords)
    ('(' :: (blanks ++ ')' :: appendix f value))
  rw [Text.trimStart_cons _ (by decide), Field.label] at hremainders
  rw [terms_parse, readField_eq_readContents, hremainders, List.map_cons, hcontent,
    readContents_cons_of_pos _ _ husable, ← List.nil_append (blanks ++ _), hnothing,
    extractTerms_nil]

end CandidateSearch

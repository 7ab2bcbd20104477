import CandidateSearch.Proofs.Clauses
import CandidateSearch.Query.Validation

/-!
# Queries that are accepted without a remark

Validation counts the parentheses of the whole query, parsing matches them from each marker on.  The
two agree on every clause that is closed: a query that is accepted without a remark yields terms for
each of them.  A clause that is never closed is lost all the same when a parenthesis in front of it,
or one that a phrase hides, makes up for the missing one.

* `terms_ne_nil_of_not_mem_warnings`: a closed clause without terms never goes without a remark;
* `terms_ne_nil_of_closed`: what a closed clause says is not lost;
* `unclosed_of_accepted`: how an accepted query can hold a clause that is never closed;
* `lost_iff_unclosed`: both together.
-/

namespace CandidateSearch

/-! ## What acceptance says -/

/-- A query without defects opens as many groups as it closes. -/
theorem nesting_of_errors_eq_nil {query : Text} (h : (validate query).errors = []) :
    nesting query = 0 := by
  rw [validate, Findings.report, List.map_eq_nil_iff, examine, defectsOf, List.append_eq_nil_iff,
    List.append_eq_nil_iff] at h
  obtain ⟨⟨hparentheses, -⟩, -⟩ := h
  split_ifs at hparentheses with hmatch
  rw [parenthesesMatch, beq_iff_eq] at hmatch
  rw [nesting_eq_count, hmatch, Int.sub_self]

/-- Validation remarks on a clause that is closed and yields no term. -/
theorem emptyValue_mem_warnings {query : Text} {f : ListField} {c : Option Text}
    (hc : c ∈ clauseContents query f.label) (h : yieldsNoTerm c = true) :
    (Remark.emptyValue f).message ∈ (validate query).warnings := by
  have hempty : hasEmptyClause query f = true := List.any_eq_true.mpr ⟨c, hc, h⟩
  have hfield : f ∈ ListField.all := by cases f <;> decide
  show (Remark.emptyValue f).message ∈ (remarksOf query).map Remark.message
  apply List.mem_map_of_mem
  unfold remarksOf
  rw [List.mem_append, List.mem_append]
  left
  right
  apply List.mem_map_of_mem
  exact List.mem_filter.mpr ⟨hfield, hempty⟩

/-- Every closed clause of a field yields a term, if validation does not remark on its value. -/
theorem terms_ne_nil_of_not_mem_warnings {query content : Text} {f : ListField}
    (h : (Remark.emptyValue f).message ∉ (validate query).warnings)
    (hcontent : some content ∈ clauseContents query f.label) :
    (extractTerms content false).terms ≠ [] := by
  intro hnil
  refine h (emptyValue_mem_warnings hcontent ?_)
  rw [yieldsNoTerm, hnil]
  rfl

/-! ## Closed clauses -/

/-- A clause contributes nothing exactly if it is never closed. -/
theorem content_eq_none_iff {label : Text} {c : Clause} :
    c.content label = none ↔ c.body = .unclosed := by
  rw [Clause.content]
  cases c.body <;> simp

/-- A content that yields terms can be used. -/
theorem isUsable_of_terms_ne_nil {content : Text} {excludeNegated : Bool}
    (h : (extractTerms content excludeNegated).terms ≠ []) : isUsable (some content) = true := by
  rw [isUsable_some_iff]
  intro htrim
  rw [extractTerms_of_trim_eq_nil htrim] at h
  exact h rfl

/-- A field that says anything has a clause that is closed. -/
theorem exists_closed_of_terms_ne_nil {query : Text} {f : ListField}
    (h : (parse query false).terms.get f ≠ []) :
    ∃ c ∈ clauses query f.label, c.body ≠ .unclosed := by
  rw [terms_parse] at h
  cases hfield : extractField query f.label with
  | none =>
    rw [readField_of_none _ hfield] at h
    exact absurd rfl h
  | some content =>
    obtain ⟨hmem, -⟩ := mem_of_firstUsable hfield
    obtain ⟨c, hc, hcontent⟩ := List.mem_map.mp hmem
    refine ⟨c, hc, fun hunclosed => ?_⟩
    rw [content_eq_none_iff.mpr hunclosed] at hcontent
    cases hcontent

/-- **What a closed clause says is not lost**, if the query has no remarks. -/
theorem terms_ne_nil_of_closed {query : Text} {f : ListField} {c : Clause}
    (hwarnings : (validate query).warnings = []) (hc : c ∈ clauses query f.label)
    (hclosed : c.body ≠ .unclosed) : (parse query false).terms.get f ≠ [] := by
  obtain ⟨content, hcontent⟩ :=
    Option.ne_none_iff_exists'.mp fun hnone => hclosed (content_eq_none_iff.mp hnone)
  have hmem : some content ∈ clauseContents query f.label := by
    rw [← hcontent]
    exact List.mem_map_of_mem hc
  have hremark : (Remark.emptyValue f).message ∉ (validate query).warnings := by
    rw [hwarnings]
    exact List.not_mem_nil
  have husable := isUsable_of_terms_ne_nil (terms_ne_nil_of_not_mem_warnings hremark hmem)
  -- the first usable content need not be this one, but it yields terms too
  obtain ⟨first, hfirst⟩ := exists_firstUsable hmem husable
  rw [terms_parse, readField_of_some _ hfirst]
  exact terms_ne_nil_of_not_mem_warnings hremark (mem_of_firstUsable hfirst).1

/-! ## Clauses that are never closed -/

/-- A text that closes more than it opens holds a closing parenthesis. -/
theorem mem_of_nesting_neg {t : Text} (h : nesting t < 0) : ')' ∈ t := by
  rw [nesting_eq_count] at h
  rw [← List.count_pos_iff]
  omega

/-- **How an accepted query can hold a clause that is never closed**: a closing parenthesis stands in
front of its value, or a phrase behind hides one. -/
theorem unclosed_of_accepted {query label : Text} {c : Clause}
    (herrors : (validate query).errors = []) (hc : c ∈ clauses query label)
    (hunclosed : c.body = .unclosed) :
    ')' ∈ query.take c.start ∨
      ∃ p, .quoted p ∈ lexemes (query.drop c.start) ∧ ')' ∈ p := by
  obtain ⟨m, -, rfl⟩ := List.mem_map.mp hc
  rw [clauseBodyAt_eq_bodyOf] at hunclosed
  obtain ⟨t, ht, hsplit⟩ := bodyOf_eq_unclosed hunclosed
  by_contra hneither
  rw [not_or, not_exists] at hneither
  obtain ⟨hfront, hhidden⟩ := hneither
  have hseen : ∀ p, .quoted p ∈ lexemes t → ')' ∉ p := by
    intro p hp hmem
    refine hhidden p ⟨?_, hmem⟩
    show .quoted p ∈ lexemes (query.drop m.stop)
    rw [ht, lexemes_mark (l := .opening) _ rfl]
    exact List.mem_cons_of_mem _ hp
  have hopen := nesting_of_splitGroup_eq_none (Int.le_refl 1) hsplit hseen
  have hbehind : nesting (query.drop m.stop) = 1 + nesting t := by
    rw [ht, nesting_cons]
    rfl
  have hwhole : nesting (query.take m.stop) + nesting (query.drop m.stop) = 0 := by
    rw [← nesting_append, List.take_append_drop, nesting_of_errors_eq_nil herrors]
  refine hfront ?_
  show ')' ∈ query.take m.stop
  exact mem_of_nesting_neg (by omega)

/-- **What an accepted query without remarks can lose.**  A field with clauses yields terms exactly
if one of its clauses is closed, and a clause that is never closed has a closing parenthesis in
front of its value or in a phrase behind. -/
theorem lost_iff_unclosed {query : Text} {f : ListField} (herrors : (validate query).errors = [])
    (hwarnings : (validate query).warnings = []) :
    ((parse query false).terms.get f ≠ [] ↔ ∃ c ∈ clauses query f.label, c.body ≠ .unclosed) ∧
      ∀ c ∈ clauses query f.label, c.body = .unclosed →
        ')' ∈ query.take c.start ∨
          ∃ p, .quoted p ∈ lexemes (query.drop c.start) ∧ ')' ∈ p :=
  ⟨⟨exists_closed_of_terms_ne_nil,
      fun ⟨_, hc, hclosed⟩ => terms_ne_nil_of_closed hwarnings hc hclosed⟩,
    fun _ hc hunclosed => unclosed_of_accepted herrors hc hunclosed⟩

/-- A query that is accepted without remarks and loses its location. -/
def losingQuery : Text := ") +Location:(Paris, +Company:(Acme)".toList

/-- The losing query keeps its company, whose group is closed, and loses its location. -/
theorem lost_of_losingQuery :
    (validate losingQuery).errors = [] ∧ (validate losingQuery).warnings = [] ∧
      (parse losingQuery false).terms.get .company ≠ [] ∧
      (parse losingQuery false).terms.get .location = [] ∧ ')' ∈ losingQuery.take 12 := by
  have herrors : (validate losingQuery).errors = [] := by decide +kernel
  have hwarnings : (validate losingQuery).warnings = [] := by decide +kernel
  have hcompany := lost_iff_unclosed (f := .company) herrors hwarnings
  have hlocation := lost_iff_unclosed (f := .location) herrors hwarnings
  refine ⟨herrors, hwarnings, hcompany.1.mpr (by decide +kernel), ?_, ?_⟩
  · by_contra hne
    exact absurd (hlocation.1.mp hne) (by decide +kernel)
  · rcases hlocation.2 ⟨12, .unclosed⟩ (by decide +kernel) rfl with hfront | ⟨p, hp, -⟩
    · exact hfront
    · have hlexemes : lexemes (losingQuery.drop 12)
          = [.opening, .word "Paris".toList, .comma, .word "+Company:".toList, .opening,
              .word "Acme".toList, .closing] := by
        decide +kernel
      rw [hlexemes] at hp
      simp at hp

/-- **A field can be lost without a word**: some query is accepted without a remark and yields no
term for a field that has a clause. -/
theorem exists_silent_loss :
    ¬ ∀ (query : Text) (f : ListField), (validate query).errors = [] →
      (validate query).warnings = [] → clauses query f.label ≠ [] →
        (parse query false).terms.get f ≠ [] := by
  intro h
  exact h ") +Location:(Paris".toList .location (by decide +kernel) (by decide +kernel)
    (by decide +kernel) (by decide +kernel)

end CandidateSearch

import CandidateSearch.Proofs.Labels
import CandidateSearch.Proofs.Rendering
import Mathlib.Data.List.Nodup

/-!
# Written queries are valid

A query that is written from its clauses is accepted without a remark, if no term holds a plus sign
or a parenthesis: its counts are even, its labels are those of its clauses, and each clause says
something.

* `fieldLabels_renderQuery`: the labels that validation sees;
* `validate_renderQuery`: a written query has neither defects nor remarks;
* `parse_renderQuery`: parsing undoes writing, and validation accepts what is written.
-/

namespace CandidateSearch

/-! ## Labels of a query -/

/-- What the fields of a query are called: the names hold no colon, have no blanks at their ends,
and are names of their own fields and of no others. -/
theorem label_facts (f : Field) :
    f.label ≠ [] ∧ ':' ∉ f.label ∧ f.label.trim = f.label ∧ mentionsField f.label = true ∧
      Field.named? f.label = some f := by
  have hall : ∀ f ∈ Field.all, f.label ≠ [] ∧ ':' ∉ f.label ∧ f.label.trim = f.label ∧
      mentionsField f.label = true ∧ Field.named? f.label = some f := by
    decide +kernel
  exact hall f f.mem_all

/-- The labels of written clauses behind a text without a plus sign. -/
theorem fieldLabels_append_renderQuery {cs : List WrittenClause} (hcs : ∀ c ∈ cs, '+' ∉ c.value)
    {before : Text} (hbefore : '+' ∉ before) :
    fieldLabels (before ++ renderQuery cs) = cs.map fun c => c.field.label := by
  induction cs generalizing before with
  | nil =>
    show fieldLabels (before ++ []) = []
    rw [List.append_nil, fieldLabels_of_not_mem hbefore]
  | cons c cs ih =>
    obtain ⟨hne, hcolon, htrim, -, -⟩ := label_facts c.field
    have hvalue : '+' ∉ c.value := hcs c List.mem_cons_self
    have hrest : ∀ d ∈ cs, '+' ∉ d.value := fun d hd => hcs d (List.mem_cons_of_mem c hd)
    have htext : before ++ renderQuery (c :: cs)
        = before ++ '+' :: (c.field.label ++ ':' :: (c.value ++ following cs)) := by
      rw [renderQuery_cons, Field.marker, List.cons_append, List.append_assoc,
        List.singleton_append]
    rw [htext, fieldLabels_append_label hbefore hne hcolon, htrim, List.map_cons]
    congr 1
    -- the value of the clause and the comma behind it stand in front of the next clause
    cases cs with
    | nil =>
      show fieldLabels (c.value ++ []) = []
      rw [List.append_nil, fieldLabels_of_not_mem hvalue]
    | cons d cs =>
      have hfront : '+' ∉ c.value ++ ", ".toList := by
        rw [List.mem_append, not_or]
        exact ⟨hvalue, by decide⟩
      rw [following_cons, ← List.append_assoc, ih hrest hfront]

/-- **The labels of a written query** are those of its clauses. -/
theorem fieldLabels_renderQuery {cs : List WrittenClause} (hcs : ∀ c ∈ cs, '+' ∉ c.value) :
    fieldLabels (renderQuery cs) = cs.map fun c => c.field.label := by
  show fieldLabels ([] ++ renderQuery cs) = _
  exact fieldLabels_append_renderQuery hcs List.not_mem_nil

/-- No field is named twice if the fields of the clauses are different. -/
theorem duplicateFields_of_nodup {fs : List Field} (h : fs.Nodup) :
    duplicateFields (fs.map Field.label) = [] := by
  have hnamed : (fs.map Field.label).filterMap Field.named? = fs := by
    rw [List.filterMap_map]
    have hsome : Field.named? ∘ Field.label = some := by
      funext f
      obtain ⟨-, -, -, -, hf⟩ := label_facts f
      exact hf
    rw [hsome, List.filterMap_some]
  rw [duplicateFields, hnamed, eraseDups_of_nodup h, List.filter_eq_nil_iff]
  intro f _
  have hcount := List.nodup_iff_count_le_one.mp h f
  simp only [decide_eq_true_eq]
  omega

/-! ## Counts of a query -/

namespace WrittenClause

/-- The value of a plain clause holds no plus sign. -/
theorem not_mem_plus_value {c : WrittenClause} (hc : c.Plain) : '+' ∉ c.value := by
  cases c with
  | list f ts =>
    have hphrases : '+' ∉ phrases ts := by
      refine phrases_induction (motive := fun x => '+' ∉ x) ?_ ?_ ?_ ?_
      · exact List.not_mem_nil
      · intro a b ha hb
        rw [List.mem_append, not_or]
        exact ⟨ha, hb⟩
      · decide
      · intro t ht hmem
        rw [quotedTerm, List.mem_cons, List.mem_append, List.mem_singleton] at hmem
        rcases hmem with h | h | h
        · cases h
        · exact (hc t ht).1 h
        · cases h
    rw [value, inParentheses, List.mem_cons, List.mem_append, List.mem_singleton]
    rintro (h | h | h)
    · cases h
    · exact hphrases h
    · cases h
  | scope f s => exact fun h => (s.phrase_plain.1 _ h).2 rfl

/-- The value of a plain clause opens as many groups as it closes. -/
theorem nesting_value {c : WrittenClause} (hc : c.Plain) : nesting c.value = 0 := by
  cases c with
  | list f ts =>
    have hphrases : nesting (phrases ts) = 0 := by
      refine phrases_induction (motive := fun x => nesting x = 0) rfl ?_ (by decide) ?_
      · intro a b ha hb
        rw [nesting_append, ha, hb, Int.add_zero]
      · intro t ht
        obtain ⟨-, hopening, hclosing⟩ := hc t ht
        rw [quotedTerm, nesting_cons, nesting_append, nesting_of_not_mem hopening hclosing]
        rfl
    rw [value, inParentheses, nesting_cons, nesting_append, hphrases]
    rfl
  | scope f s =>
    rw [value]
    cases s <;> decide

/-- The number of quotes stays even when one text is put behind another. -/
theorem count_quote_append {a b : Text} (ha : a.count '"' % 2 = 0) (hb : b.count '"' % 2 = 0) :
    (a ++ b).count '"' % 2 = 0 := by
  rw [List.count_append]
  omega

/-- The quotes in the value of a clause are in pairs. -/
theorem count_quote_value {c : WrittenClause} (hc : c.Writable) : c.value.count '"' % 2 = 0 := by
  cases c with
  | list f ts =>
    have hphrases : (phrases ts).count '"' % 2 = 0 := by
      refine phrases_induction (motive := fun x => x.count '"' % 2 = 0) rfl ?_ (by decide) ?_
      · intro a b ha hb
        exact count_quote_append ha hb
      · intro t ht
        have hquote : '"' ∉ t := (hc.isTerm t ht).2.2
        rw [quotedTerm, List.count_cons_self, List.count_append,
          List.count_eq_zero_of_not_mem hquote]
        rfl
    rw [value, inParentheses, List.count_cons_of_ne (by decide)]
    exact count_quote_append hphrases rfl
  | scope f s =>
    rw [value]
    cases s <;> decide

end WrittenClause

/-- **A plain query opens as many groups as it closes.** -/
theorem nesting_renderQuery {cs : List WrittenClause} (hplain : ∀ c ∈ cs, c.Plain) :
    nesting (renderQuery cs) = 0 := by
  refine intercalate_induction (motive := fun x => nesting x = 0) rfl ?_ (by decide) ?_
  · intro a b ha hb
    rw [nesting_append, ha, hb, Int.add_zero]
  · rintro x hx
    obtain ⟨c, hc, rfl⟩ := List.mem_map.mp hx
    have hmarker : nesting c.field.marker = 0 := by
      apply nesting_of_not_mem
      · exact fun h => (c.field.plain_of_mem_marker h).2.1 rfl
      · exact fun h => (c.field.plain_of_mem_marker h).2.2 rfl
    rw [WrittenClause.text, nesting_append, hmarker, WrittenClause.nesting_value (hplain c hc),
      Int.add_zero]

/-- **The quotes of a written query are in pairs.** -/
theorem count_quote_renderQuery {cs : List WrittenClause} (hcs : ∀ c ∈ cs, c.Writable) :
    (renderQuery cs).count '"' % 2 = 0 := by
  refine intercalate_induction (motive := fun x => x.count '"' % 2 = 0) rfl ?_ (by decide) ?_
  · intro a b ha hb
    exact WrittenClause.count_quote_append ha hb
  · rintro x hx
    obtain ⟨c, hc, rfl⟩ := List.mem_map.mp hx
    apply WrittenClause.count_quote_append
    · rw [List.count_eq_zero_of_not_mem fun h => (c.field.plain_of_mem_marker h).1 rfl]
    · exact WrittenClause.count_quote_value (hcs c hc)

/-! ## Acceptance -/

section Acceptance

variable {cs : List WrittenClause} (hcs : ∀ c ∈ cs, c.Writable)
  (hfields : (cs.map WrittenClause.field).Nodup)

include hcs in
/-- A plain query has no defects. -/
theorem defectsOf_renderQuery (hplain : ∀ c ∈ cs, c.Plain) : defectsOf (renderQuery cs) = [] := by
  have hparentheses : parenthesesMatch (renderQuery cs) = true := by
    have hnesting := nesting_renderQuery hplain
    rw [nesting_eq_count] at hnesting
    rw [parenthesesMatch, beq_iff_eq]
    omega
  have hquotes : quotesMatch (renderQuery cs) = true := by
    rw [quotesMatch, count_quote_renderQuery hcs]
    rfl
  have hlabels : (fieldLabels (renderQuery cs)).filter (!mentionsField ·) = [] := by
    rw [fieldLabels_renderQuery fun c hc => WrittenClause.not_mem_plus_value (hplain c hc),
      List.filter_eq_nil_iff]
    intro label hlabel
    obtain ⟨c, -, rfl⟩ := List.mem_map.mp hlabel
    obtain ⟨-, -, -, hmentions, -⟩ := label_facts c.field
    rw [hmentions]
    decide
  rw [defectsOf, if_pos hparentheses, if_pos hquotes, hlabels]
  rfl

include hcs hfields

/-- No clause of a written query is empty. -/
theorem hasEmptyClause_renderQuery (f : ListField) : hasEmptyClause (renderQuery cs) f = false := by
  rw [hasEmptyClause]
  by_cases hf : ∃ ts, .list f ts ∈ cs
  · obtain ⟨ts, hc⟩ := hf
    obtain ⟨content, hcontents, hterms⟩ := clauseContents_renderQuery hcs hfields hc
    have hne : ts ≠ [] := (hcs _ hc).ne_nil
    rw [hcontents, List.any_cons, List.any_nil, Bool.or_false, yieldsNoTerm, hterms]
    simpa using hne
  · rw [clauseContents_renderQuery_of_absent hcs fun ts hc => hf ⟨ts, hc⟩, List.any_nil]

/-- Every time scope of a written query has a meaning. -/
theorem unrecognizedScope_renderQuery (f : ScopeField) :
    unrecognizedScope (renderQuery cs) f = none := by
  rw [unrecognizedScope]
  by_cases hf : ∃ s, .scope f s ∈ cs
  · obtain ⟨s, hc⟩ := hf
    rw [extractScalar_renderQuery hcs hfields hc]
    cases s <;> decide +kernel
  · rw [extractScalar_renderQuery_of_absent hcs fun s hc => hf ⟨s, hc⟩, Option.filter_none]

/-- A plain query has no remarks. -/
theorem remarksOf_renderQuery (hplain : ∀ c ∈ cs, c.Plain) : remarksOf (renderQuery cs) = [] := by
  have hduplicate : duplicateFields (fieldLabels (renderQuery cs)) = [] := by
    rw [fieldLabels_renderQuery fun c hc => WrittenClause.not_mem_plus_value (hplain c hc)]
    have hnone := duplicateFields_of_nodup hfields
    rwa [List.map_map] at hnone
  have hempty : ListField.all.filter (hasEmptyClause (renderQuery cs)) = [] := by
    rw [List.filter_eq_nil_iff]
    intro f _
    rw [hasEmptyClause_renderQuery hcs hfields]
    decide
  have hscopes : (ScopeField.all.filterMap fun f =>
      (unrecognizedScope (renderQuery cs) f).map (Remark.unrecognizedScope f)) = [] := by
    rw [List.filterMap_eq_nil_iff]
    intro f _
    rw [unrecognizedScope_renderQuery hcs hfields, Option.map_none]
  rw [remarksOf, hduplicate, hempty, hscopes]
  rfl

/-- **A plain query is accepted without a remark.** -/
theorem validate_renderQuery (hplain : ∀ c ∈ cs, c.Plain) :
    validate (renderQuery cs) = ⟨true, [], []⟩ := by
  rw [validate, examine, Findings.report, defectsOf_renderQuery hcs hplain,
    remarksOf_renderQuery hcs hfields hplain]
  rfl

end Acceptance

/-- A parsed query says what some clauses say, and nothing besides. -/
structure SaysExactly (p : ParsedQuery) (cs : List WrittenClause) : Prop where
  /-- The terms of each list, in order. -/
  terms : ∀ f ts, .list f ts ∈ cs → p.terms.get f = ts
  /-- No terms for any other field. -/
  terms_absent : ∀ f, (∀ ts, .list f ts ∉ cs) → p.terms.get f = []
  /-- Each time scope that is stated. -/
  scope : ∀ f s, .scope f s ∈ cs → p.scope f = s
  /-- Both for a time scope that is not stated. -/
  scope_absent : ∀ f, (∀ s, .scope f s ∉ cs) → p.scope f = .both

/-- **Parsing undoes writing.**  Whatever the order of the clauses, a query that is written from
clauses of different fields is parsed to what they say and nothing besides, whether or not negated
terms are excluded; and it is accepted without a remark if the terms hold no plus signs and no
parentheses. -/
theorem parse_renderQuery {cs : List WrittenClause} (hfields : (cs.map WrittenClause.field).Nodup)
    (hcs : ∀ c ∈ cs, c.Writable) (excludeNegated : Bool) :
    SaysExactly (parse (renderQuery cs) excludeNegated) cs ∧
      ((∀ c ∈ cs, c.Plain) → validate (renderQuery cs) = ⟨true, [], []⟩) := by
  refine ⟨⟨?_, ?_, ?_, ?_⟩, validate_renderQuery hcs hfields⟩
  · intro f ts hc
    exact terms_parse_renderQuery hcs hfields hc excludeNegated
  · intro f hf
    exact terms_parse_renderQuery_of_absent hcs hf excludeNegated
  · intro f s hc
    exact scope_parse_renderQuery hcs hfields hc excludeNegated
  · intro f hf
    exact scope_parse_renderQuery_of_absent hcs hf excludeNegated

/-- Clauses whose terms hold commas, colons and the words of operators. -/
def trickyClauses : List WrittenClause :=
  [.scope .company .past, .list .keywords ["NOT a, b".toList, "OR".toList],
    .list .location ["Paris: 75".toList]]

/-- The tricky clauses are read back from the query they make. -/
theorem parse_renderQuery_trickyClauses :
    renderQuery trickyClauses
        = ("+Company time scope:Past, +Keywords:(\"NOT a, b\" OR \"OR\"), "
            ++ "+Location:(\"Paris: 75\")").toList ∧
      (parse (renderQuery trickyClauses) true).terms.get .keywords
        = ["NOT a, b".toList, "OR".toList] ∧
      (parse (renderQuery trickyClauses) true).terms.get .company = [] ∧
      (parse (renderQuery trickyClauses) true).scope .company = .past ∧
      validate (renderQuery trickyClauses) = ⟨true, [], []⟩ := by
  have hfields : (trickyClauses.map WrittenClause.field).Nodup := by decide
  have hcs : ∀ c ∈ trickyClauses, c.Writable := by decide +kernel
  obtain ⟨hread, hvalid⟩ := parse_renderQuery hfields hcs true
  refine ⟨by decide, ?_, ?_, ?_, hvalid (by decide)⟩
  · exact hread.terms .keywords _ (by decide)
  · refine hread.terms_absent .company fun ts hts => ?_
    rw [trickyClauses] at hts
    simp at hts
  · exact hread.scope .company .past (by decide)

end CandidateSearch

import CandidateSearch.Proofs.Appending

/-!
# Queries that go on

A query grows at its end while it is typed.  A clause whose group has been closed stays what it is,
whatever is typed next, as long as its quotes are in pairs: no phrase can begin inside the group and
end behind it, the marker in front of the group is complete, and no earlier marker can appear.  Only
keywords may grow, by the text that trails their group.

* `remainders_eq_of_head?`: a first clause that is a closed group, as a text;
* `remainders_append_group`: the first marker stays the first;
* `readField_of_group`: what a field says if its first clause is a closed group;
* `closed_group_stable`: all of it together.
-/

namespace CandidateSearch

/-! ## The first clause -/

/-- A first clause that is a closed group, as what follows the first marker. -/
theorem remainders_eq_of_head? {query label inner tail : Text} {start : Nat}
    (h : (clauses query label).head? = some ⟨start, .group inner tail⟩) :
    ∃ t beyond rs, remainders label query = ('(' :: t) :: rs ∧
      splitGroup 1 t = some (inner, beyond) := by
  unfold clauses at h
  rw [List.head?_map, Option.map_eq_some_iff] at h
  obtain ⟨m, hm, hclause⟩ := h
  obtain ⟨ms, hms⟩ := List.head?_eq_some_iff.mp hm
  injection hclause with _ hbody
  rw [clauseBodyAt_eq_bodyOf] at hbody
  obtain ⟨t, beyond, ht, hsplit⟩ := bodyOf_eq_group hbody
  refine ⟨t, beyond, ms.map fun m => query.drop m.stop, ?_, hsplit⟩
  rw [← map_drop_labelMarkers, hms, List.map_cons, ht]

/-- **The first marker stays the first.**  A parenthesis follows it, and no marker reaches across a
parenthesis, so none that stands further in front can be completed by what is appended. -/
theorem remainders_append_group {label query t : Text} {rs : List Text} (hlabel : IsLabel label)
    (h : remainders label query = ('(' :: t) :: rs) (s : Text) :
    ∃ rs', remainders label (query ++ s) = ('(' :: (t ++ s)) :: rs' := by
  have hmem : '(' :: t ∈ remainders label query := by
    rw [h]
    exact List.mem_cons_self
  obtain ⟨front, rfl⟩ := isSuffix_of_mem_remainders hmem
  rw [remainders_append hlabel rfl] at h
  rw [List.append_assoc, List.cons_append, remainders_append hlabel rfl]
  cases hfront : remainders label front with
  | nil =>
    -- what follows a marker behind the parenthesis is too short
    rw [hfront, List.map_nil, List.nil_append] at h
    have hshort : '(' :: t ∈ remainders label t := by
      rw [h]
      exact List.mem_cons_self
    have hsuffix := isSuffix_of_mem_remainders hshort
    have hlength := hsuffix.length_le
    rw [List.length_cons] at hlength
    omega
  | cons r rest =>
    rw [hfront, List.map_cons, List.cons_append, List.cons.injEq] at h
    have hr : r = [] := List.append_left_eq_self.mp h.1
    rw [hr, List.map_cons, List.nil_append, List.cons_append]
    exact ⟨_, rfl⟩

/-- What a field says if its first clause is a closed group that is not blank: what the group says,
with the text that trails it for keywords. -/
theorem readField_of_group {query t inner beyond : Text} {rs : List Text} {f : ListField}
    (excludeNegated : Bool) (hremainders : remainders f.label query = ('(' :: t) :: rs)
    (hsplit : splitGroup 1 t = some (inner, beyond)) (hinner : inner.trim ≠ []) :
    readField query excludeNegated f
      = extractTerms (if f = .keywords then joinTrailing inner (beyond.take (nextMarker beyond))
          else inner) excludeNegated := by
  rw [readField_eq_readContents, hremainders, List.map_cons, contentOf_group f hsplit]
  apply readContents_cons_of_pos
  rw [isUsable_some_iff]
  split_ifs
  · exact fun hnil => hinner (trim_inner_of_joinTrailing hnil)
  · exact hinner

/-- **What a group of keywords says comes first**, in front of what the text that trails it says. -/
theorem terms_isPrefix_of_joinTrailing {depth : Int} {t inner beyond : Text} (tail : Text)
    (h : splitGroup depth t = some (inner, beyond)) (htail : tail <+: beyond) :
    (extractTerms inner false).terms <+: (extractTerms (joinTrailing inner tail) false).terms := by
  rw [terms_joinTrailing tail h htail]
  exact List.prefix_append _ _

/-- **A closed group is stable.**  If the first clause of a field is a closed group that is not blank
and whose quotes are in pairs, then the field says the same however the query goes on; for keywords,
the terms of the group come first. -/
theorem closed_group_stable {query inner tail : Text} {f : ListField} {start : Nat}
    (hfirst : (clauses query f.label).head? = some ⟨start, .group inner tail⟩)
    (hinner : inner.trim ≠ []) (hquotes : inner.count '"' % 2 = 0) (s : Text) :
    (f ≠ .keywords → ∀ excludeNegated,
        (parse (query ++ s) excludeNegated).stated f = (parse query excludeNegated).stated f) ∧
      (f = .keywords →
        (extractTerms inner false).terms <+: (parse (query ++ s) false).terms.get f) := by
  -- both runs read their first clause from the same group, which what is appended cannot reopen
  obtain ⟨t, beyond, rs, hremainders, hsplit⟩ := remainders_eq_of_head? hfirst
  obtain ⟨rs', hlonger⟩ := remainders_append_group (isLabel_label (.list f)) hremainders s
  have hstays := splitGroup_append_of_quotes (s := s) hsplit (Or.inl hquotes)
  constructor
  · intro hf excludeNegated
    rw [stated_parse, stated_parse, readField_of_group excludeNegated hlonger hstays hinner,
      readField_of_group excludeNegated hremainders hsplit hinner, if_neg hf, if_neg hf]
  · intro hf
    rw [terms_parse, readField_of_group false hlonger hstays hinner, if_pos hf]
    exact terms_isPrefix_of_joinTrailing _ hstays (List.take_prefix _ _)

/-- A query that has been typed up to the beginning of its last clause. -/
def unfinishedQuery : Text := "+Company:(\"Acme (EU)\" OR Foo), +Keywords:(Go \"Rust\") ja".toList

/-- What the unfinished query says about companies stays, and its keywords only gain. -/
theorem closed_group_stable_unfinishedQuery :
    (parse (unfinishedQuery ++ "va\", +Company:(\"Bar) NOT".toList) true).stated .company
        = (["Acme (EU)".toList, "Foo".toList], ["OR".toList]) ∧
      ["Go".toList, "Rust".toList]
        <+: (parse (unfinishedQuery ++ "va\", +Company:(\"Bar) NOT".toList) false).terms.get
          .keywords := by
  have hcompany : (clauses unfinishedQuery (ListField.label .company)).head?
      = some ⟨9, .group "\"Acme (EU)\" OR Foo".toList ", ".toList⟩ := by
    decide +kernel
  have hkeywords : (clauses unfinishedQuery (ListField.label .keywords)).head?
      = some ⟨41, .group "Go \"Rust\"".toList " ja".toList⟩ := by
    decide +kernel
  obtain ⟨hstays, -⟩ := closed_group_stable hcompany (by decide +kernel) (by decide +kernel)
    "va\", +Company:(\"Bar) NOT".toList
  obtain ⟨-, hgrows⟩ := closed_group_stable hkeywords (by decide +kernel) (by decide +kernel)
    "va\", +Company:(\"Bar) NOT".toList
  constructor
  · rw [hstays (by decide) true]
    decide +kernel
  · have hterms := hgrows rfl
    have hgroup : (extractTerms "Go \"Rust\"".toList false).terms = ["Go".toList, "Rust".toList] := by
      decide +kernel
    rwa [hgroup] at hterms

end CandidateSearch

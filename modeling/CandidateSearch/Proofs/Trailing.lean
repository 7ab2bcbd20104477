import CandidateSearch.Proofs.Clauses
import CandidateSearch.Proofs.Negation
import CandidateSearch.Proofs.Parentheses

/-!
# Keywords that trail a group

A clause of keywords may go on behind its group.  The group loses its parentheses and the text that
trails it is joined to it by a space.  The two are still read one after the other, whatever quotes
they hold, since a quote without a partner inside the group has no quote behind it in the whole
query.

Negation is read across the seam.  The parentheses of a group are balanced, so the reading leaves
the group as it has entered it, and the parentheses that are cut off make a difference to one thing
only: a NOT that is the last token of the group is no longer ended by them.  It applies to what
trails the group, as if it stood behind the closing parenthesis.

* `extractTerms_of_group_clause`: what a group and the text that trails it say;
* `markLexemes_deeper`, `run_of_balanced`: a balanced content is read alike inside parentheses, and
  leaves only a NOT behind;
* `keywords_of_group`: the keywords of a query, with negated terms excluded.
-/

namespace CandidateSearch

/-! ## Clauses that are groups -/

/-- **A group of keywords and the text that trails it are read one after the other.**  The clause
stands in the query as the group, its closing parenthesis, and the text up to the next marker.  Its
words, phrases and operators are those of the group followed by those of the trailing text, and its
terms are those of the group followed by the new ones. -/
theorem extractTerms_of_group_clause {query inner tail : Text} {c : Clause}
    (hc : c ∈ clauses query (ListField.label .keywords)) (hbody : c.body = .group inner tail) :
    ∃ content beyond, c.content (ListField.label .keywords) = some content ∧
      query.drop c.start = inParentheses inner ++ beyond ∧
      tail = beyond.take (nextMarker beyond) ∧
      lexemes content = lexemes inner ++ lexemes tail.trim ∧
      (extractTerms content false).terms
        = (extractTerms inner false).terms ++ (extractTerms tail.trim false).terms.filter
            (!(extractTerms inner false).terms.contains ·) ∧
      (extractTerms content false).operators
        = (extractTerms inner false).operators ++ (extractTerms tail.trim false).operators := by
  obtain ⟨t, beyond, ht, hsplit, htail⟩ := exists_splitGroup_of_mem_clauses hc hbody
  have hprefix : tail <+: beyond := htail ▸ List.take_prefix _ _
  refine ⟨joinTrailing inner tail, beyond, content_of_group hbody, ?_, htail,
    lexemes_joinTrailing tail hsplit hprefix, terms_joinTrailing tail hsplit hprefix,
    scanOperators_joinTrailing inner tail⟩
  rw [ht, splitGroup_eq_some hsplit, inParentheses_append]

/-- A query whose second clause of keywords holds a quote without a partner. -/
def looseGroupQuery : Text :=
  "+Keywords:(Go), +Keywords:(Rust OR \"C) and Rust x+, +Job title:(Lead)".toList

/-- The group with the loose quote says what it would say alone, and `x+` is new. -/
theorem extractTerms_of_group_clause_looseGroupQuery :
    ⟨26, .group "Rust OR \"C".toList " and Rust x+, ".toList⟩
        ∈ clauses looseGroupQuery (ListField.label .keywords) ∧
      ∃ content beyond,
        Clause.content (ListField.label .keywords)
            ⟨26, .group "Rust OR \"C".toList " and Rust x+, ".toList⟩ = some content ∧
          looseGroupQuery.drop 26 = inParentheses "Rust OR \"C".toList ++ beyond ∧
          (extractTerms content false).terms = ["Rust".toList, ['C'], "x+".toList] ∧
          (extractTerms content false).operators = [.or, .and] := by
  have hc : ⟨26, .group "Rust OR \"C".toList " and Rust x+, ".toList⟩
      ∈ clauses looseGroupQuery (ListField.label .keywords) := by
    decide +kernel
  obtain ⟨content, beyond, hcontent, hquery, -, -, hterms, hoperators⟩ :=
    extractTerms_of_group_clause hc rfl
  refine ⟨hc, content, beyond, hcontent, hquery, ?_, ?_⟩
  · rw [hterms]
    decide +kernel
  · rw [hoperators]
    decide +kernel

/-! ## Negation inside a group -/

/-- The same state inside one more group, before which no NOT stands. -/
def NegationState.deeper (s : NegationState) : NegationState where
  depth := s.depth + 1
  negatedAt := s.negatedAt.map (· + 1)
  pending := s.pending

/-- One more group around a term does not negate it. -/
theorem NegationState.negates_deeper (s : NegationState) : s.deeper.negates = s.negates := by
  rw [negates, negates, deeper, Option.isSome_map]

section Inside

variable {s : NegationState} {l : Lexeme}

/-- A token that closes nothing from outside is read alike one group deeper. -/
theorem NegationState.step_deeper (h : 0 ≤ (s.depth : Int) + l.weight) :
    s.deeper.step l = (s.step l).deeper := by
  cases l with
  | opening =>
    show s.deeper.enter = s.enter.deeper
    unfold enter deeper
    cases s.pending <;> cases s.negatedAt <;> rfl
  | closing =>
    have hdepth : 0 < s.depth := by
      rw [Lexeme.weight] at h
      omega
    show s.deeper.leave = s.leave.deeper
    unfold leave deeper
    rw [NegationState.mk.injEq]
    refine ⟨?_, ?_, rfl⟩
    · show s.depth + 1 - 1 = s.depth - 1 + 1
      omega
    · show (s.negatedAt.map (· + 1)).filter (· < s.depth + 1)
        = (s.negatedAt.filter (· < s.depth)).map (· + 1)
      cases s.negatedAt with
      | none => rfl
      | some d => by_cases hd : d < s.depth <;> simp [Option.filter, hd]
  | operator op => rfl
  | comma => rfl
  | word t => rfl
  | quoted t => rfl

/-- Such a token changes the depth by its weight. -/
theorem NegationState.depth_step (h : 0 ≤ (s.depth : Int) + l.weight) :
    ((s.step l).depth : Int) = s.depth + l.weight := by
  cases l with
  | closing =>
    show ((s.depth - 1 : Nat) : Int) = s.depth + Lexeme.weight .closing
    rw [Lexeme.weight] at h ⊢
    omega
  | _ => rfl

/-- Some tokens that close nothing from outside: the first does not, nor do the others behind it. -/
theorem staysInside_cons {tok : Token} {tokens : List Token}
    (h : ∀ p, p <+: tok :: tokens → 0 ≤ (s.depth : Int) + tokenNesting p) :
    0 ≤ (s.depth : Int) + tok.lexeme.weight ∧
      ∀ p, p <+: tokens → 0 ≤ ((s.step tok.lexeme).depth : Int) + tokenNesting p := by
  have hfirst : 0 ≤ (s.depth : Int) + tok.lexeme.weight := by
    have hone := h [tok] (List.prefix_append [tok] tokens)
    rwa [tokenNesting_cons, tokenNesting_nil, Int.add_zero] at hone
  refine ⟨hfirst, fun p hp => ?_⟩
  have hmore := h (tok :: p) (List.cons_prefix_cons.mpr ⟨rfl, hp⟩)
  rw [tokenNesting_cons, ← Int.add_assoc] at hmore
  rwa [NegationState.depth_step hfirst]

/-- **Tokens that close nothing from outside are read alike one group deeper**: they are marked
alike, and the reading ends in the same state. -/
theorem markLexemes_deeper {tokens : List Token}
    (h : ∀ p, p <+: tokens → 0 ≤ (s.depth : Int) + tokenNesting p) :
    markLexemes s.deeper (tokens.map (·.lexeme)) = markLexemes s (tokens.map (·.lexeme)) ∧
      s.deeper.run (tokens.map (·.lexeme)) = (s.run (tokens.map (·.lexeme))).deeper := by
  induction tokens generalizing s with
  | nil => exact ⟨rfl, rfl⟩
  | cons tok tokens ih =>
    obtain ⟨hfirst, hrest⟩ := staysInside_cons h
    obtain ⟨hmarks, hrun⟩ := ih hrest
    rw [← NegationState.step_deeper hfirst] at hmarks hrun
    refine ⟨?_, hrun⟩
    rw [List.map_cons, markLexemes, markLexemes, hmarks, NegationState.negates_deeper]

/-- The depth follows the nesting of such tokens. -/
theorem NegationState.depth_run {tokens : List Token}
    (h : ∀ p, p <+: tokens → 0 ≤ (s.depth : Int) + tokenNesting p) :
    ((s.run (tokens.map (·.lexeme))).depth : Int) = s.depth + tokenNesting tokens := by
  induction tokens generalizing s with
  | nil => exact (Int.add_zero _).symm
  | cons tok tokens ih =>
    obtain ⟨hfirst, hrest⟩ := staysInside_cons h
    rw [tokenNesting_cons, ← Int.add_assoc, ← depth_step hfirst]
    exact ih hrest

end Inside

/-- Balanced tokens close nothing from outside. -/
theorem staysInside_of_balanced {tokens : List Token} (h : TokensBalanced tokens)
    (p : List Token) (hp : p <+: tokens) :
    0 ≤ (NegationState.start.depth : Int) + tokenNesting p := by
  have hprefix := h.2 p hp
  show 0 ≤ ((0 : Nat) : Int) + tokenNesting p
  omega

/-- The last token of a content is NOT. -/
def EndsInNot (content : Text) : Prop := (lexemes content).getLast? = some (.operator .not)

instance (content : Text) : Decidable (EndsInNot content) :=
  inferInstanceAs (Decidable ((lexemes content).getLast? = some (.operator .not)))

/-- **A balanced content leaves only a NOT behind.** -/
theorem run_of_balanced {content : Text} (h : TokensBalanced (tokenize content)) :
    NegationState.start.run (lexemes content) = ⟨0, none, decide (EndsInNot content)⟩ := by
  refine NegationState.run_start_of_depth ?_
  have hrun := NegationState.depth_run (staysInside_of_balanced h)
  rw [h.1] at hrun
  exact Int.ofNat.inj hrun

/-! ## Keywords with negated terms excluded -/

section Group

variable {inner beyond : Text}

/-- The tokens of a text in parentheses and of what follows it. -/
theorem lexemes_inParentheses_append (x : Text)
    (hquotes : inner.count '"' % 2 = 0 ∨ '"' ∉ x) :
    lexemes (inParentheses inner ++ x) = .opening :: (lexemes inner ++ .closing :: lexemes x) := by
  have hapart : BeginsApart (')' :: x) := beginsApart_cons _ (by decide)
  have hbehind : inner.count '"' % 2 = 0 ∨ '"' ∉ ')' :: x := by
    refine hquotes.imp_right fun hx hmem => hx ?_
    exact (List.mem_cons.mp hmem).resolve_left (by decide)
  rw [inParentheses_append, lexemes_mark _ rfl, lexemes_append hapart hbehind, lexemes_mark _ rfl]

/-- **A balanced content in parentheses does not change how what follows it is read.** -/
theorem markLexemes_inParentheses (hbalanced : TokensBalanced (tokenize inner)) (x : Text)
    (hquotes : inner.count '"' % 2 = 0 ∨ '"' ∉ x) :
    markLexemes .start (lexemes (inParentheses inner ++ x))
      = markLexemes .start (lexemes inner) ++ markLexemes .start (lexemes x) := by
  obtain ⟨hmarks, hrun⟩ := markLexemes_deeper (staysInside_of_balanced hbalanced)
  have henter : NegationState.start.step .opening = NegationState.start.deeper := rfl
  have hleave : ((NegationState.start.run (lexemes inner)).deeper).step .closing = .start := by
    rw [run_of_balanced hbalanced]
    rfl
  rw [lexemes_inParentheses_append x hquotes, markLexemes_cons_none _ rfl, henter,
    markLexemes_append, markLexemes_cons_none _ rfl]
  rw [lexemes] at hleave ⊢
  rw [hmarks, hrun, hleave]

/-- How a balanced content is marked together with what follows it. -/
theorem markLexemes_append_of_balanced (hbalanced : TokensBalanced (tokenize inner))
    (ls : List Lexeme) :
    markLexemes .start (lexemes inner ++ ls)
      = markLexemes .start (lexemes inner)
        ++ markLexemes .start (if EndsInNot inner then .operator .not :: ls else ls) := by
  rw [markLexemes_append, run_of_balanced hbalanced]
  by_cases hnot : EndsInNot inner
  · rw [if_pos hnot, decide_eq_true hnot, markLexemes_cons_none _ rfl]
    rfl
  · rw [if_neg hnot, decide_eq_false hnot]
    rfl

/-- **What is said by a group without its parentheses and the text that trails it.**  A NOT at the
end of the group applies to the trailing text, as if it stood behind the group. -/
theorem terms_joinTrailing_excluded {t : Text} {tail : Text}
    (hsplit : splitGroup 1 t = some (inner, beyond)) (htail : tail <+: beyond) :
    (extractTerms (joinTrailing inner tail) true).terms
      = (extractTerms (inParentheses inner ++
          ((if EndsInNot inner then " NOT ".toList else [' ']) ++ tail.trim)) true).terms := by
  have hnotText : " NOT ".toList ++ tail.trim
      = ' ' :: (Operator.name .not ++ ' ' :: tail.trim) := rfl
  have hbalanced := tokensBalanced_of_splitGroup hsplit
  have hquotes : ∀ front : Text, '"' ∉ front →
      inner.count '"' % 2 = 0 ∨ '"' ∉ front ++ tail.trim := by
    intro front hfront
    refine (quotes_of_splitGroup hsplit).imp_right fun hbeyond hmem => ?_
    rcases List.mem_append.mp hmem with hmem | hmem
    · exact hfront hmem
    · exact hbeyond (htail.subset ((Text.trim_isInfix tail).subset hmem))
  rw [terms_extractTerms, terms_extractTerms, lexemes_joinTrailing tail hsplit htail,
    markLexemes_append_of_balanced hbalanced]
  by_cases hnot : EndsInNot inner
  · rw [if_pos hnot, if_pos hnot, markLexemes_inParentheses hbalanced _ (hquotes _ (by decide)),
      hnotText, lexemes_operator]
  · rw [if_neg hnot, if_neg hnot, markLexemes_inParentheses hbalanced _ (hquotes _ (by decide)),
      List.singleton_append, lexemes_space]

end Group

/-- **The keywords of a group, with negated terms excluded.**  If the first clause of keywords is a
closed group that is not blank, then its keywords are those of the group in its parentheses and the
text that trails it.  Only a NOT that is the last token of the group is not ended by the closing
parenthesis: it is read as if it stood behind it. -/
theorem keywords_of_group {query inner tail : Text} {start : Nat}
    (hfirst : (clauses query (ListField.label .keywords)).head? = some ⟨start, .group inner tail⟩)
    (hinner : inner.trim ≠ []) :
    (¬ EndsInNot inner → (parse query true).terms.get .keywords
        = (extractTerms (inParentheses inner ++ ' ' :: tail.trim) true).terms) ∧
      (EndsInNot inner → (parse query true).terms.get .keywords
        = (extractTerms (inParentheses inner ++ (" NOT ".toList ++ tail.trim)) true).terms) := by
  have hmem := List.mem_of_mem_head? hfirst
  obtain ⟨t, beyond, ht, hsplit, htail⟩ := exists_splitGroup_of_mem_clauses hmem rfl
  have hprefix : tail <+: beyond := htail ▸ List.take_prefix _ _
  have hread : (parse query true).terms.get .keywords
      = (extractTerms (joinTrailing inner tail) true).terms := by
    obtain ⟨cs, hcs⟩ := List.head?_eq_some_iff.mp hfirst
    have husable : isUsable (some (joinTrailing inner tail)) = true :=
      isUsable_some_iff.mpr fun hnil => hinner (trim_inner_of_joinTrailing hnil)
    rw [terms_parse, readField_eq_readContents, ← clauseContents_eq_map, clauseContents, hcs,
      List.map_cons, content_of_group rfl, readContents_cons_of_pos _ _ husable]
  rw [hread, terms_joinTrailing_excluded hsplit hprefix]
  constructor
  · intro hnot
    rw [if_neg hnot, List.singleton_append]
  · intro hnot
    rw [if_pos hnot]

/-- A query whose keywords end in a NOT that follows a negated group. -/
def endingNotQuery : Text := "+Keywords:(Java NOT (Go) NOT) Python Rust".toList

/-- A query whose keywords hold a negated group and go on behind a phrase. -/
def innerNotQuery : Text := "+Keywords:(NOT (a b) c \"NOT\") d NOT e".toList

/-- The NOT at the end of the group takes away the first word behind it; a phrase does not. -/
theorem keywords_of_group_endingNotQuery :
    ((clauses endingNotQuery (ListField.label .keywords)).head?
          = some ⟨10, .group "Java NOT (Go) NOT".toList " Python Rust".toList⟩ ∧
        (parse endingNotQuery true).terms.get .keywords = ["Java".toList, "Rust".toList]) ∧
      (clauses innerNotQuery (ListField.label .keywords)).head?
          = some ⟨10, .group "NOT (a b) c \"NOT\"".toList " d NOT e".toList⟩ ∧
        (parse innerNotQuery true).terms.get .keywords = [['c'], "NOT".toList, ['d']] := by
  have hending : (clauses endingNotQuery (ListField.label .keywords)).head?
      = some ⟨10, .group "Java NOT (Go) NOT".toList " Python Rust".toList⟩ := by
    decide +kernel
  have hinside : (clauses innerNotQuery (ListField.label .keywords)).head?
      = some ⟨10, .group "NOT (a b) c \"NOT\"".toList " d NOT e".toList⟩ := by
    decide +kernel
  refine ⟨⟨hending, ?_⟩, hinside, ?_⟩
  · rw [(keywords_of_group hending (by decide +kernel)).2 (by decide +kernel)]
    decide +kernel
  · rw [(keywords_of_group hinside (by decide +kernel)).1 (by decide +kernel)]
    decide +kernel

/-- **A NOT can reach out of a group**: the closing parenthesis of a group of keywords does not end
it. -/
theorem exists_not_reaching_out :
    ¬ ∀ (query inner tail : Text) (start : Nat),
      (clauses query (ListField.label .keywords)).head? = some ⟨start, .group inner tail⟩ →
        inner.trim ≠ [] → (parse query true).terms.get .keywords
          = (extractTerms (inParentheses inner ++ ' ' :: tail.trim) true).terms := by
  intro h
  have hread := h "+Keywords:(Java NOT) Python".toList "Java NOT".toList " Python".toList 10
    (by decide +kernel) (by decide +kernel)
  revert hread
  decide +kernel

end CandidateSearch

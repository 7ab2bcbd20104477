import CandidateSearch.Proofs.Negation
import CandidateSearch.Proofs.Parentheses

/-!
# Contents joined by a separator

Two contents may be joined by blanks and commas.  What the joined content says is what the first
says, followed by what is new in the second, provided that no phrase reaches across the seam.  With
negated terms excluded, nothing that the first content leaves behind may reach across either: a
comma ends a NOT, and a negated group must be closed before the seam.

* `depth_run_eq_zero_iff`, `run_of_closesEveryGroup`: what a content leaves behind that closes every
  group it opens, whatever else it closes;
* `lexemes_joined`, `scanOperators_joined`: what the joined content is read as;
* `extractTerms_joined`: the terms and operators of the joined content.
-/

namespace CandidateSearch

/-! ## Groups that are left open -/

/-- The tokens close as many groups as are open in front: some beginning of them closes these and
all that it opens itself. -/
def ClosesGroups (depth : Int) (tokens : List Token) : Prop :=
  ∃ p, p <+: tokens ∧ depth + tokenNesting p ≤ 0

/-- Every parenthesis that the tokens open is closed behind it.  A closing parenthesis that closes
nothing does not matter. -/
def ClosesEveryGroup (tokens : List Token) : Prop :=
  ∀ before tok after, tokens = before ++ tok :: after → tok.lexeme = .opening →
    ClosesGroups 1 after

section Closing

variable {depth : Int} {tok : Token} {tokens : List Token}

/-- Where no group is open, none must be closed. -/
theorem closesGroups_of_nonpos (h : depth ≤ 0) : ClosesGroups depth tokens :=
  ⟨[], List.nil_prefix, by rwa [tokenNesting_nil, Int.add_zero]⟩

/-- What closes some groups closes fewer. -/
theorem ClosesGroups.of_le {fewer : Int} (h : ClosesGroups depth tokens) (hle : fewer ≤ depth) :
    ClosesGroups fewer tokens := by
  obtain ⟨p, hp, hclosed⟩ := h
  exact ⟨p, hp, by omega⟩

/-- The first token changes how many groups the others must close. -/
theorem closesGroups_cons_iff :
    ClosesGroups depth (tok :: tokens)
      ↔ depth ≤ 0 ∨ ClosesGroups (depth + tok.lexeme.weight) tokens := by
  constructor
  · rintro ⟨p, hp, hclosed⟩
    rcases List.prefix_cons_iff.mp hp with rfl | ⟨q, rfl, hq⟩
    · rw [tokenNesting_nil, Int.add_zero] at hclosed
      exact Or.inl hclosed
    · rw [tokenNesting_cons, ← Int.add_assoc] at hclosed
      exact Or.inr ⟨q, hq, hclosed⟩
  · rintro (hdepth | ⟨q, hq, hclosed⟩)
    · exact closesGroups_of_nonpos hdepth
    · refine ⟨tok :: q, List.cons_prefix_cons.mpr ⟨rfl, hq⟩, ?_⟩
      rwa [tokenNesting_cons, ← Int.add_assoc]

/-- No token opens a group. -/
theorem closesEveryGroup_nil : ClosesEveryGroup [] := by
  intro before tok after h
  rw [List.nil_eq, List.append_eq_nil_iff] at h
  exact absurd h.2 (List.cons_ne_nil _ _)

/-- The first token opens no group, or the others close it. -/
theorem closesEveryGroup_cons_iff :
    ClosesEveryGroup (tok :: tokens)
      ↔ (tok.lexeme = .opening → ClosesGroups 1 tokens) ∧ ClosesEveryGroup tokens := by
  constructor
  · intro h
    refine ⟨h [] tok tokens rfl, fun before other after htokens => ?_⟩
    exact h (tok :: before) other after (by rw [htokens]; rfl)
  · rintro ⟨hfirst, hothers⟩ before other after htokens hopening
    cases before with
    | nil =>
      obtain ⟨rfl, rfl⟩ := List.cons.inj htokens
      exact hfirst hopening
    | cons first before =>
      rw [List.cons_append, List.cons.injEq] at htokens
      exact hothers before other after htokens.2 hopening

end Closing

/-- **One token of a reading.**  What is open behind it must be closed: all that was open in front,
and the group that the token itself opens. -/
theorem closesGroups_step_iff (s : NegationState) (l : Lexeme) (tokens : List Token) :
    ClosesGroups (s.step l).depth tokens
      ↔ (l = .opening → ClosesGroups 1 tokens) ∧
        ((s.depth : Int) ≤ 0 ∨ ClosesGroups (s.depth + l.weight) tokens) := by
  cases l with
  | opening =>
    have hdepth : (((s.step .opening).depth : Nat) : Int) = s.depth + 1 := rfl
    rw [hdepth, Lexeme.weight]
    constructor
    · intro hgroups
      exact ⟨fun _ => hgroups.of_le (by omega), Or.inr hgroups⟩
    · rintro ⟨hfirst, hgroups⟩
      exact hgroups.elim (fun hzero => (hfirst rfl).of_le (by omega)) id
  | closing =>
    have hdepth : (s.step .closing).depth = s.depth - 1 := rfl
    rw [hdepth, Lexeme.weight, and_iff_right (fun h => absurd h Lexeme.noConfusion)]
    -- with no group open the parenthesis is ignored, and nothing must be closed
    by_cases hzero : s.depth = 0
    · rw [hzero]
      exact iff_of_true (closesGroups_of_nonpos (Int.le_refl 0)) (Or.inl (Int.le_refl 0))
    · have hcast : ((s.depth - 1 : Nat) : Int) = s.depth + -1 := by omega
      rw [hcast]
      exact (or_iff_right (by omega)).symm
  | _ =>
    have hsame : ClosesGroups s.depth tokens
        ↔ (s.depth : Int) ≤ 0 ∨ ClosesGroups (s.depth + 0) tokens := by
      rw [Int.add_zero]
      exact (or_iff_right_of_imp closesGroups_of_nonpos).symm
    rw [and_iff_right (fun h => absurd h Lexeme.noConfusion)]
    exact hsame

/-- **When a reading leaves no group open**: every group that the tokens open is closed, and so are
those that were open in front. -/
theorem depth_run_eq_zero_iff (s : NegationState) (tokens : List Token) :
    (s.run (tokens.map (·.lexeme))).depth = 0
      ↔ ClosesEveryGroup tokens ∧ ClosesGroups s.depth tokens := by
  induction tokens generalizing s with
  | nil =>
    have hgroups : ClosesGroups s.depth [] ↔ s.depth = 0 := by
      constructor
      · rintro ⟨p, hp, hclosed⟩
        rw [List.prefix_nil.mp hp, tokenNesting_nil] at hclosed
        omega
      · intro h
        exact closesGroups_of_nonpos (by omega)
    rw [hgroups]
    exact (and_iff_right closesEveryGroup_nil).symm
  | cons tok tokens ih =>
    have hrun : s.run ((tok :: tokens).map (·.lexeme))
        = (s.step tok.lexeme).run (tokens.map (·.lexeme)) := rfl
    rw [hrun, ih, closesGroups_step_iff, closesEveryGroup_cons_iff, closesGroups_cons_iff,
      ← and_assoc, and_comm (a := ClosesEveryGroup tokens)]

instance (tokens : List Token) : Decidable (ClosesEveryGroup tokens) :=
  decidable_of_iff ((NegationState.start.run (tokens.map (·.lexeme))).depth = 0) <| by
    rw [depth_run_eq_zero_iff]
    exact and_iff_left (closesGroups_of_nonpos (Int.le_refl 0))

/-- **A content that closes every group leaves only a NOT behind.** -/
theorem run_of_closesEveryGroup {content : Text} (h : ClosesEveryGroup (tokenize content)) :
    ∃ pending, NegationState.start.run (lexemes content) = ⟨0, none, pending⟩ := by
  refine ⟨_, NegationState.run_start_of_depth ?_⟩
  exact (depth_run_eq_zero_iff .start _).mpr ⟨h, closesGroups_of_nonpos (Int.le_refl 0)⟩

/-! ## Reading across a separator -/

/-- Commas end a NOT, and change nothing else. -/
theorem NegationState.run_commas (s : NegationState) {n : Nat} (hn : n ≠ 0) :
    s.run (List.replicate n .comma) = { s with pending := false } := by
  obtain ⟨n, rfl⟩ := Nat.exists_eq_succ_of_ne_zero hn
  induction n generalizing s with
  | zero => rfl
  | succ n ih => exact ih (s.step .comma) (Nat.succ_ne_zero n)

section Joined

variable {a b c : Text} (hne : c ≠ []) (hc : IsSeparator c)

include hne hc

/-- A separator separates operators. -/
theorem scanOperators_joined : scanOperators (a ++ c ++ b) = scanOperators a ++ scanOperators b := by
  obtain ⟨d, z, rfl⟩ := List.exists_cons_of_ne_nil hne
  rw [List.append_assoc, List.cons_append,
    scanOperators_append_cons _ _ (hc.not_isWordCharacter d List.mem_cons_self),
    scanOperators_append_of_forall _ hc.tail.not_isWordCharacter]

/-- A separator separates words, and phrases that do not reach across it. -/
theorem lexemes_joined (hquotes : a.count '"' % 2 = 0 ∨ '"' ∉ b) :
    lexemes (a ++ c ++ b)
      = lexemes a ++ (List.replicate (c.count ',') .comma ++ lexemes b) := by
  have hapart : BeginsApart (c ++ b) := by
    obtain ⟨d, z, rfl⟩ := List.exists_cons_of_ne_nil hne
    exact hc.beginsApart
  have hbehind : a.count '"' % 2 = 0 ∨ '"' ∉ c ++ b :=
    hquotes.imp_right fun hb => List.not_mem_append hc.not_mem_quote hb
  rw [List.append_assoc, lexemes_append hapart hbehind, lexemes_separator_append hc]

/-- A content that closes every group, and a comma behind it, leave nothing behind. -/
theorem markLexemes_joined (hquotes : a.count '"' % 2 = 0 ∨ '"' ∉ b) (hcomma : ',' ∈ c)
    (hclosed : ClosesEveryGroup (tokenize a)) :
    markLexemes .start (lexemes (a ++ c ++ b))
      = markLexemes .start (lexemes a) ++ markLexemes .start (lexemes b) := by
  obtain ⟨pending, hrun⟩ := run_of_closesEveryGroup hclosed
  have hcount : c.count ',' ≠ 0 := fun hzero => List.count_eq_zero.mp hzero hcomma
  have hcommas : ∀ l ∈ List.replicate (c.count ',') Lexeme.comma, l = .comma :=
    fun l hl => List.eq_of_mem_replicate hl
  rw [lexemes_joined hne hc hquotes, markLexemes_append, markLexemes_append, hrun,
    markLexemes_commas _ hcommas, NegationState.run_commas _ hcount, List.nil_append]
  rfl

end Joined

/-- **Extraction is compositional.**  The operators of two contents joined by a separator are those
of the first followed by those of the second.  If no phrase can reach across the seam, the terms are
those of the first followed by those of the second that are new; and with negated terms excluded
this is so too, if the separator holds a comma and the first content closes every group that it
opens. -/
theorem extractTerms_joined {a b c : Text} (hne : c ≠ []) (hc : IsSeparator c) :
    (∀ excludeNegated, (extractTerms (a ++ c ++ b) excludeNegated).operators
        = (extractTerms a excludeNegated).operators ++ (extractTerms b excludeNegated).operators) ∧
      ((a.count '"' % 2 = 0 ∨ '"' ∉ b) →
        (extractTerms (a ++ c ++ b) false).terms
            = (extractTerms a false).terms ++ (extractTerms b false).terms.filter
                (!(extractTerms a false).terms.contains ·) ∧
          (',' ∈ c → ClosesEveryGroup (tokenize a) →
            (extractTerms (a ++ c ++ b) true).terms
              = (extractTerms a true).terms ++ (extractTerms b true).terms.filter
                  (!(extractTerms a true).terms.contains ·))) := by
  refine ⟨fun _ => scanOperators_joined hne hc, fun hquotes => ⟨?_, fun hcomma hclosed => ?_⟩⟩
  · have hcommas : (List.replicate (c.count ',') Lexeme.comma).filterMap Lexeme.term? = [] :=
      List.filterMap_eq_nil_iff.mpr fun l hl => by rw [List.eq_of_mem_replicate hl]; rfl
    rw [terms_extractTerms_false, terms_extractTerms_false, terms_extractTerms_false,
      lexemes_joined hne hc hquotes, List.filterMap_append, List.filterMap_append, hcommas,
      List.nil_append, eraseDups_append_eq_filter]
  · rw [terms_extractTerms, terms_extractTerms, terms_extractTerms,
      markLexemes_joined hne hc hquotes hcomma hclosed, keptTerms_append,
      eraseDups_append_eq_filter]

/-- A content with a closing parenthesis that closes nothing, a negated group, a quote without a
partner, and a NOT at its end. -/
def strayContent : Text := "a) NOT (b \"c\") \"d NOT".toList

/-- The NOT at the end of the stray content does not reach across the comma, and the term that both
contents have is listed once. -/
theorem extractTerms_joined_strayContent :
    (" ,\u00a0".toList ≠ [] ∧ IsSeparator " ,\u00a0".toList ∧ '"' ∉ "e or d".toList ∧
        ',' ∈ " ,\u00a0".toList ∧ ClosesEveryGroup (tokenize strayContent)) ∧
      (extractTerms (strayContent ++ " ,\u00a0".toList ++ "e or d".toList) true).operators
        = [.not, .not, .or] ∧
      (extractTerms (strayContent ++ " ,\u00a0".toList ++ "e or d".toList) false).terms
        = [['a'], ['b'], ['c'], ['d'], ['e']] ∧
      (extractTerms (strayContent ++ " ,\u00a0".toList ++ "e or d".toList) true).terms
        = [['a'], ['d'], ['e']] := by
  have hne : " ,\u00a0".toList ≠ [] := by decide
  have hc : IsSeparator " ,\u00a0".toList := Text.forall_mem_of_all (by decide)
  have hquotes : '"' ∉ "e or d".toList := by decide
  have hcomma : ',' ∈ " ,\u00a0".toList := by decide
  have hclosed : ClosesEveryGroup (tokenize strayContent) := by decide +kernel
  obtain ⟨hoperators, hterms⟩ :=
    extractTerms_joined (a := strayContent) (b := "e or d".toList) hne hc
  obtain ⟨hkept, hexcluded⟩ := hterms (Or.inr hquotes)
  refine ⟨⟨hne, hc, hquotes, hcomma, hclosed⟩, ?_, ?_, ?_⟩
  · rw [hoperators]
    decide +kernel
  · rw [hkept]
    decide +kernel
  · rw [hexcluded hcomma hclosed]
    decide +kernel

end CandidateSearch

import CandidateSearch.Proofs.Lexemes
import CandidateSearch.Proofs.OperatorWords
import CandidateSearch.Query.Validation

/-!
# Where tokens stand

The tokens of a text cover stretches of it that follow one another.  Each stretch is written as its
lexeme asks, a word or operator is a run of word characters as a whole, and what no token covers is
blank, but for the last quote of a text with an odd number of quotes.  Tokens with these properties
are a cutting of the text, and a text has no other cutting than its tokens.

A cutting is built from the end of the text on: `IsCuttingFrom.skip` lets it begin at a character
that may be left over, and `IsCuttingFrom.take` at a token.

* `Written.unique`: what is written in front of a text can be read in one way;
* `isCuttingFrom_tokensFrom`: the tokens of a text are a cutting;
* `IsCuttingFrom.unique`: a text has one cutting;
* `isCutting_iff`: both together, with the report on unmatched quotes.
-/

namespace CandidateSearch

/-! ## Sources of tokens -/

/-- A run of characters that words may hold. -/
def IsRun (w : Text) : Prop := w ≠ [] ∧ ∀ c ∈ w, isWordPart c = true

/-- The text does not end inside a word. -/
def EndsApart (t : Text) : Prop := ∀ c ∈ t.getLast?, isWordPart c = false

/-- How a lexeme is written. -/
inductive Written : Lexeme → Text → Prop where
  /-- A run that names no operator is a word. -/
  | word {w : Text} : IsRun w → (∀ op : Operator, w.map Char.toUpper ≠ op.name) →
      Written (.word w) w
  /-- A run that names an operator in any mix of capitals and small letters is that operator. -/
  | operator {w : Text} {op : Operator} : IsRun w → w.map Char.toUpper = op.name →
      Written (.operator op) w
  /-- A phrase stands between two quotes and holds none. -/
  | phrase {p : Text} : '"' ∉ p → Written (.quoted p) ('"' :: (p ++ ['"']))
  /-- A mark is one character. -/
  | mark {c : Char} {l : Lexeme} : Lexeme.ofMark? c = some l → Written l [c]

/-- The stretch of a text that a token covers. -/
def Token.source (tok : Token) (t : Text) : Text := (t.drop tok.position).take tok.width

/-- The token covers a position. -/
def Token.Covers (tok : Token) (i : Nat) : Prop := tok.position ≤ i ∧ i < tok.stop

/-- The token stands in the text where it says. -/
structure Token.StandsIn (tok : Token) (t : Text) : Prop where
  /-- What it covers is written as its lexeme asks. -/
  written : Written tok.lexeme (tok.source t)
  /-- A run of word characters is covered as a whole. -/
  whole : IsRun (tok.source t) → EndsApart (t.take tok.position) ∧ BeginsApart (t.drop tok.stop)

/-- The last quote of a text whose quotes are odd in number. -/
structure IsLooseQuote (t : Text) (i : Nat) : Prop where
  odd : t.count '"' % 2 = 1
  quote : t[i]? = some '"'
  last : '"' ∉ t.drop (i + 1)

/-- Tokens that cut a text into pieces from a position on. -/
structure IsCuttingFrom (t : Text) (start : Nat) (tokens : List Token) : Prop where
  /-- No token begins before the position. -/
  begins : ∀ tok ∈ tokens, start ≤ tok.position
  /-- The tokens follow one another without overlapping. -/
  ordered : tokens.Pairwise fun a b => a.position < b.position ∧ a.stop ≤ b.position
  /-- Each stands where it says. -/
  standsIn : ∀ tok ∈ tokens, tok.StandsIn t
  /-- What no token covers is blank, or the quote without a partner. -/
  leftOver : ∀ i c, start ≤ i → t[i]? = some c → (∀ tok ∈ tokens, ¬ tok.Covers i) →
    isBlank c = true ∨ IsLooseQuote t i
  /-- No token covers that quote. -/
  looseQuote : ∀ i, IsLooseQuote t i → ∀ tok ∈ tokens, ¬ tok.Covers i

/-- Tokens that cut a text into pieces. -/
def IsCutting (t : Text) (tokens : List Token) : Prop := IsCuttingFrom t 0 tokens

/-! ## Runs -/

/-- A run does not begin apart. -/
theorem IsRun.not_beginsApart {w : Text} (h : IsRun w) (rest : Text) :
    ¬ BeginsApart (w ++ rest) := by
  obtain ⟨hne, hw⟩ := h
  obtain ⟨c, w, rfl⟩ := List.exists_cons_of_ne_nil hne
  intro hapart
  have hc := hw c List.mem_cons_self
  rw [hapart c rfl] at hc
  exact absurd hc (by decide)

/-- A run is the longest one in front of a text that begins apart. -/
theorem IsRun.takeWhile_append {w rest : Text} (h : IsRun w) (hrest : BeginsApart rest) :
    (w ++ rest).takeWhile isWordPart = w := by
  rw [List.takeWhile_append_of_pos h.2, takeWhile_of_beginsApart hrest, List.append_nil]

/-- A run holds no quote. -/
theorem IsRun.not_mem_quote {w : Text} (h : IsRun w) : '"' ∉ w := fun hq =>
  (isWordPart_iff.mp (h.2 _ hq)).2.1 rfl

/-- A text ends apart if its last character is no part of a word. -/
theorem endsApart_append_singleton (t : Text) {c : Char} (h : isWordPart c = false) :
    EndsApart (t ++ [c]) := by
  intro d hd
  rw [List.getLast?_concat, Option.mem_some_iff] at hd
  rw [← hd, h]

/-- A mark is no part of a word. -/
theorem isWordPart_of_ofMark? {c : Char} {l : Lexeme} (h : Lexeme.ofMark? c = some l) :
    isWordPart c = false := by
  rcases ofMark?_eq_some h with ⟨rfl, -⟩ | ⟨rfl, -⟩ | ⟨rfl, -⟩ <;> decide

/-- A blank is no part of a word. -/
theorem isWordPart_of_isBlank {c : Char} (h : isBlank c = true) : isWordPart c = false := by
  rw [isWordPart, h]
  rfl

/-! ## How lexemes are written -/

/-- A run is written for the lexeme that it stands for. -/
theorem written_ofWord {w : Text} (h : IsRun w) : Written (.ofWord w) w := by
  unfold Lexeme.ofWord
  cases hword : Operator.ofWord? w with
  | some op => exact .operator h (ofWord?_eq_some_iff.mp hword)
  | none =>
    refine .word h fun op hop => ?_
    rw [ofWord?_eq_some_iff.mpr hop] at hword
    cases hword

/-- What is written for a lexeme is as long as the lexeme says. -/
theorem Written.length_eq {l : Lexeme} {s : Text} (h : Written l s) : s.length = l.width := by
  cases h with
  | word => rfl
  | operator _ hop => rw [← List.length_map, hop]; rfl
  | phrase => simp [Lexeme.width]
  | mark hmark => rcases ofMark?_eq_some hmark with ⟨-, rfl⟩ | ⟨-, rfl⟩ | ⟨-, rfl⟩ <;> rfl

/-- Something is written for every lexeme. -/
theorem Written.ne_nil {l : Lexeme} {s : Text} (h : Written l s) : s ≠ [] := by
  cases h with
  | word hrun => exact hrun.1
  | operator hrun => exact hrun.1
  | phrase => exact List.cons_ne_nil _ _
  | mark => exact List.cons_ne_nil _ _

/-- Its quotes are in pairs. -/
theorem Written.count_quote {l : Lexeme} {s : Text} (h : Written l s) : s.count '"' % 2 = 0 := by
  cases h with
  | word hrun => rw [List.count_eq_zero_of_not_mem hrun.not_mem_quote]
  | operator hrun => rw [List.count_eq_zero_of_not_mem hrun.not_mem_quote]
  | phrase hp =>
    rw [List.count_cons_self, List.count_append, List.count_eq_zero_of_not_mem hp]
    rfl
  | mark hmark =>
    rw [List.count_eq_zero_of_not_mem]
    intro hq
    exact ne_quote_of_ofMark? hmark (List.mem_singleton.mp hq).symm

/-- No lexeme is written with a blank in front. -/
theorem Written.not_isBlank_head {l : Lexeme} {c : Char} {s : Text} (h : Written l (c :: s)) :
    isBlank c = false := by
  have hrun : IsRun (c :: s) → isBlank c = false := fun hrun =>
    (isWordPart_iff.mp (hrun.2 c List.mem_cons_self)).1
  cases h with
  | word h => exact hrun h
  | operator h => exact hrun h
  | phrase => decide
  | mark hmark => rcases ofMark?_eq_some hmark with ⟨rfl, -⟩ | ⟨rfl, -⟩ | ⟨rfl, -⟩ <;> decide

/-- With a mark in front, the mark is all that is written. -/
theorem Written.of_mark {l m : Lexeme} {c : Char} {s : Text} (h : Written l (c :: s))
    (hc : Lexeme.ofMark? c = some m) : l = m ∧ s = [] := by
  have hrun : ¬ IsRun (c :: s) := fun hrun => by
    have hpart := hrun.2 c List.mem_cons_self
    rw [isWordPart_of_ofMark? hc] at hpart
    exact absurd hpart (by decide)
  cases h with
  | word h => exact absurd h hrun
  | operator h => exact absurd h hrun
  | phrase => exact absurd rfl (ne_quote_of_ofMark? hc)
  | mark hmark =>
    rw [hmark, Option.some.injEq] at hc
    exact ⟨hc, rfl⟩

/-- With a quote in front, a phrase is written. -/
theorem Written.of_quote {l : Lexeme} {s : Text} (h : Written l ('"' :: s)) :
    ∃ p, l = .quoted p ∧ '"' ∉ p ∧ s = p ++ ['"'] := by
  have hrun : ¬ IsRun ('"' :: s) := fun hrun => hrun.not_mem_quote List.mem_cons_self
  cases h with
  | word h => exact absurd h hrun
  | operator h => exact absurd h hrun
  | phrase hp => exact ⟨_, rfl, hp, rfl⟩
  | mark hmark => exact absurd rfl (ne_quote_of_ofMark? hmark)

/-- With a character of a word in front, a run is written. -/
theorem Written.of_wordPart {l : Lexeme} {c : Char} {s : Text} (h : Written l (c :: s))
    (hc : isWordPart c = true) : IsRun (c :: s) ∧ l = .ofWord (c :: s) := by
  cases h with
  | word hrun hname =>
    refine ⟨hrun, ?_⟩
    cases hword : Operator.ofWord? (c :: s) with
    | some op => exact absurd (ofWord?_eq_some_iff.mp hword) (hname op)
    | none => simp only [Lexeme.ofWord, hword]
  | operator hrun hop =>
    refine ⟨hrun, ?_⟩
    simp only [Lexeme.ofWord, ofWord?_eq_some_iff.mpr hop]
  | phrase => exact absurd hc (by decide)
  | mark hmark =>
    rw [isWordPart_of_ofMark? hmark] at hc
    exact absurd hc (by decide)

/-- **What is written can be read in one way**, if runs are read as a whole. -/
theorem Written.unique {l l' : Lexeme} {s s' r r' : Text} (h : Written l s) (h' : Written l' s')
    (hsame : s ++ r = s' ++ r') (hr : IsRun s → BeginsApart r) (hr' : IsRun s' → BeginsApart r') :
    l = l' ∧ s = s' := by
  obtain ⟨c, s, rfl⟩ := List.exists_cons_of_ne_nil h.ne_nil
  obtain ⟨d, s', rfl⟩ := List.exists_cons_of_ne_nil h'.ne_nil
  have hcons : c :: (s ++ r) = d :: (s' ++ r') := hsame
  obtain ⟨rfl, hrest⟩ := List.cons.inj hcons
  rcases character_cases c with hblank | ⟨m, hmark⟩ | rfl | hpart
  · rw [h.not_isBlank_head] at hblank
    exact absurd hblank (by decide)
  · obtain ⟨rfl, rfl⟩ := h.of_mark hmark
    obtain ⟨rfl, rfl⟩ := h'.of_mark hmark
    exact ⟨rfl, rfl⟩
  · obtain ⟨p, rfl, hp, rfl⟩ := h.of_quote
    obtain ⟨q, rfl, hq, rfl⟩ := h'.of_quote
    rw [List.append_assoc, List.append_assoc, List.singleton_append, List.singleton_append] at hrest
    obtain ⟨rfl, -⟩ := Text.append_cons_inj hp hq hrest
    exact ⟨rfl, rfl⟩
  · obtain ⟨hrun, rfl⟩ := h.of_wordPart hpart
    obtain ⟨hrun', rfl⟩ := h'.of_wordPart hpart
    -- both are the longest run in front of the text
    have hword : c :: s = c :: s' := by
      rw [← hrun.takeWhile_append (hr hrun), hsame, hrun'.takeWhile_append (hr' hrun')]
    rw [hword]
    exact ⟨rfl, rfl⟩

/-! ## Tokens in a text -/

/-- What follows the beginning of a token is its source and what follows its end. -/
theorem Token.drop_position (tok : Token) (t : Text) :
    t.drop tok.position = tok.source t ++ t.drop tok.stop := by
  rw [Token.source, Token.stop, ← List.drop_drop, List.take_append_drop]

/-- A token whose source stands behind some text. -/
theorem standsIn_of_written {l : Lexeme} {front s rest : Text} (h : Written l s)
    (hwhole : IsRun s → EndsApart front ∧ BeginsApart rest) :
    Token.StandsIn ⟨l, front.length⟩ (front ++ (s ++ rest)) := by
  have hwidth : Token.width ⟨l, front.length⟩ = s.length := h.length_eq.symm
  have hsource : Token.source ⟨l, front.length⟩ (front ++ (s ++ rest)) = s := by
    rw [Token.source, hwidth, List.drop_left, List.take_left]
  have hstop : (front ++ (s ++ rest)).drop (Token.stop ⟨l, front.length⟩) = rest := by
    rw [Token.stop, hwidth, List.drop_length_add_append, List.drop_left]
  refine ⟨by rwa [hsource], fun hrun => ?_⟩
  rw [hsource] at hrun
  rw [hstop, List.take_left]
  exact hwhole hrun

/-- A token in a text covers something, and nothing beyond the text. -/
theorem Token.StandsIn.bounds {tok : Token} {t : Text} (h : tok.StandsIn t) :
    tok.position < tok.stop ∧ tok.stop ≤ t.length := by
  have hlength := h.written.length_eq
  have hpos := List.length_pos_of_ne_nil h.written.ne_nil
  rw [Token.source, List.length_take, List.length_drop] at hlength
  rw [Token.source, List.length_take, List.length_drop] at hpos
  rw [Token.stop, Token.width]
  omega

/-- The first character of a token is not blank. -/
theorem Token.StandsIn.exists_getElem? {tok : Token} {t : Text} (h : tok.StandsIn t) :
    ∃ c, t[tok.position]? = some c ∧ isBlank c = false := by
  obtain ⟨c, s, hs⟩ := List.exists_cons_of_ne_nil h.written.ne_nil
  have hwritten := h.written
  rw [hs] at hwritten
  refine ⟨c, ?_, hwritten.not_isBlank_head⟩
  rw [← List.head?_drop, tok.drop_position t, hs]
  rfl

/-- Two tokens that begin at the same position of a text are the same. -/
theorem Token.StandsIn.eq_of_position_eq {a b : Token} {t : Text} (ha : a.StandsIn t)
    (hb : b.StandsIn t) (h : a.position = b.position) : a = b := by
  have hsame : a.source t ++ t.drop a.stop = b.source t ++ t.drop b.stop := by
    rw [← a.drop_position, ← b.drop_position, h]
  obtain ⟨hlexeme, -⟩ := ha.written.unique hb.written hsame (fun hrun => (ha.whole hrun).2)
    fun hrun => (hb.whole hrun).2
  cases a
  cases b
  obtain rfl := hlexeme
  obtain rfl := h
  rfl

/-- A token behind quotes in pairs does not cover the quote without a partner. -/
theorem Token.StandsIn.not_covers_looseQuote {tok : Token} {t : Text} (h : tok.StandsIn t)
    (hquotes : (t.take tok.position).count '"' % 2 = 0 ∨ '"' ∉ t.drop tok.position) {i : Nat}
    (hi : IsLooseQuote t i) : ¬ tok.Covers i := by
  rintro ⟨hstart, hstop⟩
  rcases hquotes with hfront | hnone
  · -- no quote follows the token, so all quotes are in pairs
    have hrest : (t.drop tok.stop).count '"' = 0 := by
      rw [List.count_eq_zero]
      intro hq
      exact hi.last ((List.drop_suffix_drop_left t hstop).subset hq)
    have hcount : t.count '"' = (t.take tok.position).count '"' + (tok.source t).count '"' := by
      conv_lhs => rw [← List.take_append_drop tok.position t, tok.drop_position t]
      rw [List.count_append, List.count_append, hrest, Nat.add_zero]
    have hsource := h.written.count_quote
    have hodd := hi.odd
    omega
  · apply hnone
    have hquote : (t.drop tok.position)[i - tok.position]? = some '"' := by
      rw [List.getElem?_drop, Nat.add_sub_cancel' hstart, hi.quote]
    exact List.mem_of_getElem? hquote

/-! ## Tokens from a position on -/

/-- The tokens of a text that begins at a position. -/
def tokensFrom (pos : Nat) (t : Text) : List Token := tokensOf (scanFrom pos t)

section Steps

variable (pos : Nat) {c : Char} {l : Lexeme} {p w : Text} (rest : Text)

theorem tokensFrom_nil : tokensFrom pos [] = [] := by
  rw [tokensFrom, scanFrom_nil]
  rfl

/-- A blank is no token. -/
theorem tokensFrom_blank (h : isBlank c = true) :
    tokensFrom pos (c :: rest) = tokensFrom (pos + 1) rest := by
  rw [tokensFrom, scanFrom_blank _ _ h]
  rfl

/-- A mark in front. -/
theorem tokensFrom_mark (h : Lexeme.ofMark? c = some l) :
    tokensFrom pos (c :: rest) = ⟨l, pos⟩ :: tokensFrom (pos + 1) rest := by
  rw [tokensFrom, scanFrom_mark _ _ h]
  rfl

/-- A closed phrase in front. -/
theorem tokensFrom_phrase (h : '"' ∉ p) :
    tokensFrom pos ('"' :: (p ++ '"' :: rest))
      = ⟨.quoted p, pos⟩ :: tokensFrom (pos + (p.length + 2)) rest := by
  rw [tokensFrom, scanFrom_phrase _ _ h]
  rfl

/-- A quote without a partner is no token. -/
theorem tokensFrom_looseQuote (h : '"' ∉ rest) :
    tokensFrom pos ('"' :: rest) = tokensFrom (pos + 1) rest := by
  rw [tokensFrom, scanFrom_looseQuote _ _ h]
  rfl

/-- A whole word in front. -/
theorem tokensFrom_word (hne : w ≠ []) (hw : ∀ c ∈ w, isWordPart c = true)
    (hrest : BeginsApart rest) :
    tokensFrom pos (w ++ rest) = ⟨.ofWord w, pos⟩ :: tokensFrom (pos + w.length) rest := by
  rw [tokensFrom, scanFrom_word _ _ hne hw hrest]
  rfl

end Steps

/-- The position at which a text begins only moves its tokens. -/
theorem tokensFrom_add (k pos : Nat) (t : Text) :
    tokensFrom (k + pos) t = (tokensFrom pos t).map (Token.shift k) := by
  rw [tokensFrom, scanFrom_add, tokensOf_shift, tokensFrom]

/-- The tokens of two texts are read one after the other when the second begins apart and no phrase
can cross the seam. -/
theorem tokensFrom_append {a b : Text} (pos : Nat) (hb : BeginsApart b)
    (hquotes : a.count '"' % 2 = 0 ∨ '"' ∉ b) :
    tokensFrom pos (a ++ b) = tokensFrom pos a ++ tokensFrom (pos + a.length) b := by
  rw [tokensFrom, scanFrom_append pos hb hquotes, tokensOf, List.filterMap_append]
  rfl

/-! ## Cuttings from the end of a text -/

/-- A cutting may begin earlier, if what it passes over may be left over. -/
theorem IsCuttingFrom.skip {t : Text} {start : Nat} {tokens : List Token}
    (h : IsCuttingFrom t (start + 1) tokens)
    (hskip : ∀ c, t[start]? = some c → isBlank c = true ∨ IsLooseQuote t start) :
    IsCuttingFrom t start tokens where
  begins tok htok := Nat.le_of_succ_le (h.begins tok htok)
  ordered := h.ordered
  standsIn := h.standsIn
  leftOver i c hi hc huncovered := by
    rcases Nat.eq_or_lt_of_le hi with rfl | hlt
    · exact hskip c hc
    · exact h.leftOver i c hlt hc huncovered
  looseQuote := h.looseQuote

/-- A token in front of a cutting that begins where the token ends. -/
theorem IsCuttingFrom.take {t : Text} {tok : Token} {tokens : List Token}
    (h : IsCuttingFrom t tok.stop tokens) (htok : tok.StandsIn t)
    (hloose : ∀ i, IsLooseQuote t i → ¬ tok.Covers i) :
    IsCuttingFrom t tok.position (tok :: tokens) where
  begins other hother := by
    rcases List.mem_cons.mp hother with rfl | hother
    · exact Nat.le_refl _
    · exact Nat.le_trans (Nat.le_of_lt htok.bounds.1) (h.begins other hother)
  ordered := by
    refine List.pairwise_cons.mpr ⟨fun other hother => ?_, h.ordered⟩
    have hbegins := h.begins other hother
    have hbounds := htok.bounds
    omega
  standsIn := List.forall_mem_cons.mpr ⟨htok, h.standsIn⟩
  leftOver i c hi hc huncovered := by
    obtain ⟨hfirst, hothers⟩ := List.forall_mem_cons.mp huncovered
    apply h.leftOver i c _ hc hothers
    by_contra hlt
    exact hfirst ⟨hi, by omega⟩
  looseQuote i hi := List.forall_mem_cons.mpr ⟨hloose i hi, h.looseQuote i hi⟩

/-- Behind its first token a cutting goes on. -/
theorem IsCuttingFrom.tail {t : Text} {start : Nat} {tok : Token} {tokens : List Token}
    (h : IsCuttingFrom t start (tok :: tokens)) : IsCuttingFrom t tok.stop tokens where
  begins other hother := ((List.pairwise_cons.mp h.ordered).1 other hother).2
  ordered := (List.pairwise_cons.mp h.ordered).2
  standsIn := (List.forall_mem_cons.mp h.standsIn).2
  leftOver i c hi hc huncovered := by
    have hstart := h.begins tok List.mem_cons_self
    have hbounds := ((List.forall_mem_cons.mp h.standsIn).1).bounds
    apply h.leftOver i c (by omega) hc
    refine List.forall_mem_cons.mpr ⟨?_, huncovered⟩
    rintro ⟨-, hlt⟩
    omega
  looseQuote i hi := (List.forall_mem_cons.mp (h.looseQuote i hi)).2

/-- A cutting covers the first character of every token that stands in the text, but for tokens that
cover the quote without a partner. -/
theorem IsCuttingFrom.exists_covers {t : Text} {start : Nat} {tokens : List Token}
    (h : IsCuttingFrom t start tokens) {tok : Token} (htok : tok.StandsIn t)
    (hstart : start ≤ tok.position) (hloose : ∀ i, IsLooseQuote t i → ¬ tok.Covers i) :
    ∃ other ∈ tokens, other.Covers tok.position := by
  by_contra hnone
  push Not at hnone
  obtain ⟨c, hc, hblank⟩ := htok.exists_getElem?
  rcases h.leftOver tok.position c hstart hc hnone with hleft | hleft
  · rw [hblank] at hleft
    exact absurd hleft (by decide)
  · exact hloose _ hleft ⟨Nat.le_refl _, htok.bounds.1⟩

/-! ## The tokens of a text -/

/-- The first token of a cutting begins where that of another does, or there. -/
theorem IsCuttingFrom.position_le {t : Text} {start : Nat} {a b : Token} {as bs : List Token}
    (ha : IsCuttingFrom t start (a :: as)) (hb : IsCuttingFrom t start (b :: bs)) :
    a.position ≤ b.position := by
  obtain ⟨other, hother, hcovers⟩ := ha.exists_covers (hb.standsIn b List.mem_cons_self)
    (hb.begins b List.mem_cons_self) fun i hi => hb.looseQuote i hi b List.mem_cons_self
  refine Nat.le_trans ?_ hcovers.1
  rcases List.mem_cons.mp hother with rfl | hother
  · exact Nat.le_refl _
  · exact Nat.le_of_lt ((List.pairwise_cons.mp ha.ordered).1 other hother).1

/-- **A text has one cutting.** -/
theorem IsCuttingFrom.unique {t : Text} {start : Nat} {as bs : List Token}
    (ha : IsCuttingFrom t start as) (hb : IsCuttingFrom t start bs) : as = bs := by
  induction as generalizing start bs with
  | nil =>
    cases bs with
    | nil => rfl
    | cons b bs =>
      obtain ⟨other, hother, -⟩ := ha.exists_covers (hb.standsIn b List.mem_cons_self)
        (hb.begins b List.mem_cons_self) fun i hi => hb.looseQuote i hi b List.mem_cons_self
      cases hother
  | cons a as ih =>
    cases bs with
    | nil =>
      obtain ⟨other, hother, -⟩ := hb.exists_covers (ha.standsIn a List.mem_cons_self)
        (ha.begins a List.mem_cons_self) fun i hi => ha.looseQuote i hi a List.mem_cons_self
      cases hother
    | cons b bs =>
      -- both begin with a token at the same position, which is the same token
      have hposition : a.position = b.position :=
        Nat.le_antisymm (ha.position_le hb) (hb.position_le ha)
      obtain rfl := (ha.standsIn a List.mem_cons_self).eq_of_position_eq
        (hb.standsIn b List.mem_cons_self) hposition
      rw [ih ha.tail hb.tail]

/-- A token in front of a cutting of what follows it. -/
theorem IsCuttingFrom.cons {l : Lexeme} {front s rest : Text} {tokens : List Token}
    (h : IsCuttingFrom (front ++ s ++ rest) (front ++ s).length tokens) (hs : Written l s)
    (hwhole : IsRun s → EndsApart front ∧ BeginsApart rest)
    (hquotes : front.count '"' % 2 = 0 ∨ '"' ∉ s ++ rest) :
    IsCuttingFrom (front ++ (s ++ rest)) front.length (⟨l, front.length⟩ :: tokens) := by
  have hstands := standsIn_of_written hs hwhole
  have hstop : Token.stop ⟨l, front.length⟩ = (front ++ s).length := by
    rw [List.length_append, hs.length_eq]
    rfl
  rw [List.append_assoc, ← hstop] at h
  refine h.take hstands fun i hi => hstands.not_covers_looseQuote ?_ hi
  rwa [List.take_left, List.drop_left]

/-- The quote that has no partner, behind quotes in pairs. -/
theorem isLooseQuote_append_cons {front rest : Text} (hfront : front.count '"' % 2 = 0)
    (hrest : '"' ∉ rest) : IsLooseQuote (front ++ '"' :: rest) front.length where
  odd := by
    rw [List.count_append, List.count_cons_self, List.count_eq_zero_of_not_mem hrest]
    omega
  quote := by simp
  last := by rwa [List.drop_length_add_append, List.drop_one, List.tail_cons]

/-- Behind quotes in pairs, a text whose quotes are in pairs leaves them in pairs. -/
theorem quotes_append {front s rest : Text} (hs : s.count '"' % 2 = 0)
    (h : front.count '"' % 2 = 0 ∨ '"' ∉ s ++ rest) :
    (front ++ s).count '"' % 2 = 0 ∨ '"' ∉ rest := by
  rw [List.count_append]
  refine h.imp (fun hfront => by omega) fun hq hmem => hq (List.mem_append_right s hmem)

/-- **The tokens of a text are a cutting.**  What is in front of it must not let a word go on, and
its quotes must be in pairs, unless no quote follows. -/
theorem isCuttingFrom_tokensFrom {t : Text} (front : Text)
    (hapart : EndsApart front ∨ BeginsApart t) (hquotes : front.count '"' % 2 = 0 ∨ '"' ∉ t) :
    IsCuttingFrom (front ++ t) front.length (tokensFrom front.length t) := by
  induction t using scan_induction generalizing front with
  | nil =>
    rw [tokensFrom_nil]
    refine ⟨by simp, List.Pairwise.nil, by simp, ?_, by simp⟩
    intro i c hi hc
    rw [List.append_nil, List.getElem?_eq_none hi] at hc
    cases hc
  | blank c rest hc ih =>
    have hcount : [c].count '"' % 2 = 0 := by
      rw [List.count_singleton, if_neg (by simpa using ne_quote_of_isBlank hc)]
    have hrest := ih (front ++ [c])
      (Or.inl (endsApart_append_singleton front (isWordPart_of_isBlank hc)))
      (quotes_append hcount hquotes)
    rw [List.length_append, List.append_assoc] at hrest
    rw [tokensFrom_blank _ _ hc]
    refine hrest.skip fun d hd => Or.inl ?_
    rw [List.getElem?_append_right (Nat.le_refl _), Nat.sub_self] at hd
    cases hd
    exact hc
  | mark c l rest hl ih =>
    have hwritten : Written l [c] := .mark hl
    have hrest := ih (front ++ [c])
      (Or.inl (endsApart_append_singleton front (isWordPart_of_ofMark? hl)))
      (quotes_append hwritten.count_quote hquotes)
    have hrun : ¬ IsRun [c] := fun hrun => by
      have hpart := hrun.2 c List.mem_cons_self
      rw [isWordPart_of_ofMark? hl] at hpart
      exact absurd hpart (by decide)
    have hcons := hrest.cons hwritten (fun h => absurd h hrun) hquotes
    rw [List.length_append] at hcons
    rw [tokensFrom_mark _ _ hl]
    exact hcons
  | phrase p rest hp ih =>
    have hwritten : Written (.quoted p) ('"' :: (p ++ ['"'])) := .phrase hp
    have hsplit : '"' :: (p ++ '"' :: rest) = '"' :: (p ++ ['"']) ++ rest := by simp
    have hends : EndsApart (front ++ '"' :: (p ++ ['"'])) := by
      have hends := endsApart_append_singleton (front ++ '"' :: p) (c := '"') (by decide)
      rwa [List.append_assoc] at hends
    rw [hsplit] at hquotes
    have hrest := ih (front ++ '"' :: (p ++ ['"'])) (Or.inl hends)
      (quotes_append hwritten.count_quote hquotes)
    have hrun : ¬ IsRun ('"' :: (p ++ ['"'])) := fun hrun =>
      hrun.not_mem_quote List.mem_cons_self
    have hcons := hrest.cons hwritten (fun h => absurd h hrun) hquotes
    have hlength : (front ++ '"' :: (p ++ ['"'])).length = front.length + (p.length + 2) := by
      simp
    rw [hlength] at hcons
    rw [tokensFrom_phrase _ _ hp, hsplit]
    exact hcons
  | looseQuote rest hq ih =>
    -- the quote has no partner in front either, so there the quotes are in pairs
    have hfront : front.count '"' % 2 = 0 := hquotes.resolve_right fun h => h List.mem_cons_self
    have hrest := ih (front ++ ['"']) (Or.inl (endsApart_append_singleton front (by decide)))
      (Or.inr hq)
    rw [List.length_append, List.append_assoc] at hrest
    rw [tokensFrom_looseQuote _ _ hq]
    exact hrest.skip fun d hd => Or.inr (isLooseQuote_append_cons hfront hq)
  | word w rest hne hw hrest ih =>
    have hrun : IsRun w := ⟨hne, hw⟩
    have hends : EndsApart front := hapart.resolve_right (hrun.not_beginsApart rest)
    have hbehind := ih (front ++ w) (Or.inr hrest)
      (quotes_append (written_ofWord hrun).count_quote hquotes)
    have hcons := hbehind.cons (written_ofWord hrun) (fun _ => ⟨hends, hrest⟩) hquotes
    rw [List.length_append] at hcons
    rw [tokensFrom_word _ _ hne hw hrest]
    exact hcons

/-- The tokens of a whole text are a cutting. -/
theorem isCutting_tokenize (t : Text) : IsCutting t (tokenize t) :=
  isCuttingFrom_tokensFrom [] (Or.inl fun c hc => by cases hc) (Or.inl rfl)

/-- The tokens of a text begin inside it. -/
theorem position_of_mem_tokensFrom {pos : Nat} {t : Text} {tok : Token}
    (h : tok ∈ tokensFrom pos t) : pos ≤ tok.position ∧ tok.position < pos + t.length := by
  rw [← Nat.add_zero pos, tokensFrom_add] at h
  obtain ⟨found, hfound, rfl⟩ := List.mem_map.mp h
  have hbounds := ((isCutting_tokenize t).standsIn found hfound).bounds
  have hposition : (Token.shift pos found).position = pos + found.position := rfl
  omega

/-- The tokens of a text begin one after the other. -/
theorem pairwise_position_tokensFrom (pos : Nat) (t : Text) :
    (tokensFrom pos t).Pairwise fun a b => a.position < b.position := by
  rw [← Nat.add_zero pos, tokensFrom_add]
  refine List.Pairwise.map _ (fun a b hab => ?_) ((isCutting_tokenize t).ordered)
  exact Nat.add_lt_add_left hab.1 pos

/-! ## Unmatched quotes -/

/-- The words for unmatched quotes are those of no other defect. -/
theorem message_unmatchedQuotes_inj {d : Defect} (h : d.message = Defect.unmatchedQuotes.message) :
    d = .unmatchedQuotes := by
  cases d with
  | unmatchedQuotes => rfl
  | unmatchedParentheses => exact absurd h (by decide)
  | unknownField label =>
    have hsecond : (Defect.unknownField label).message[2]? = some 'k' := rfl
    rw [h] at hsecond
    exact absurd hsecond (by decide)

/-- **Unmatched quotes are reported** exactly if the quotes are odd in number. -/
theorem unmatchedQuotes_mem_errors_iff (query : Text) :
    Defect.unmatchedQuotes.message ∈ (validate query).errors ↔ query.count '"' % 2 = 1 := by
  have hdefect : Defect.unmatchedQuotes.message ∈ (validate query).errors ↔
      .unmatchedQuotes ∈ defectsOf query := by
    constructor
    · intro h
      obtain ⟨d, hd, hmessage⟩ := List.mem_map.mp h
      rwa [← message_unmatchedQuotes_inj hmessage]
    · exact List.mem_map_of_mem
  rw [hdefect, defectsOf, quotesMatch]
  by_cases hodd : query.count '"' % 2 = 1
  · simp [hodd]
  · have heven : query.count '"' % 2 = 0 := by omega
    by_cases hparentheses : parenthesesMatch query <;> simp [heven, hparentheses]

/-- A text has a quote without a partner exactly if its quotes are odd in number. -/
theorem exists_isLooseQuote_iff {t : Text} :
    (∃ i, IsLooseQuote t i) ↔ t.count '"' % 2 = 1 := by
  constructor
  · rintro ⟨i, hi⟩
    exact hi.odd
  · intro hodd
    have hmem : '"' ∈ t := List.count_pos_iff.mp (by omega)
    obtain ⟨front, rest, rfl, hrest⟩ := Text.exists_append_cons_of_mem hmem
    refine ⟨front.length, isLooseQuote_append_cons ?_ hrest⟩
    rw [List.count_append, List.count_cons_self, List.count_eq_zero_of_not_mem hrest] at hodd
    omega

/-- **Tokenizing loses nothing and is maximal**: the tokens of a text are its one and only cutting.
The last quote of a text has no partner if the quotes are odd in number, which is when validation
reports them as unmatched. -/
theorem isCutting_iff (t : Text) (tokens : List Token) :
    (IsCutting t tokens ↔ tokens = tokenize t) ∧
      (Defect.unmatchedQuotes.message ∈ (validate t).errors ↔ t.count '"' % 2 = 1) ∧
      ((∃ i, IsLooseQuote t i) ↔ t.count '"' % 2 = 1) := by
  refine ⟨⟨fun h => h.unique (isCutting_tokenize t), ?_⟩, unmatchedQuotes_mem_errors_iff t,
    exists_isLooseQuote_iff⟩
  rintro rfl
  exact isCutting_tokenize t

/-- A phrase with an operator next to it, a mark, a word that begins with a letter beyond ASCII, and
a quote without a partner. -/
example : tokenize "\"a (b\"nOt(\u0131r, \"c".toList
    = [⟨.quoted "a (b".toList, 0⟩, ⟨.operator .not, 6⟩, ⟨.opening, 9⟩, ⟨.word "\u0131r".toList, 10⟩,
      ⟨.comma, 12⟩, ⟨.word ['c'], 15⟩] := by
  decide +kernel

end CandidateSearch

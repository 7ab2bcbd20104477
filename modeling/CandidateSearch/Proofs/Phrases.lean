import CandidateSearch.Proofs.Highlighting
import CandidateSearch.Proofs.Placement

/-!
# Highlighted phrases

The tokenizer and the highlighting pair the quotes of a query apart from each other.  Markers and
operators hold no quotes, so the highlighted phrases are those that a search for phrases alone
finds.  That search takes two quotes next to each other for no phrase and tries the second quote
again, where the tokenizer reads an empty phrase and goes on behind it.  From there on the two
disagree, unless a third quote follows at once, or none follows at all.

* `phraseSpans_eq_phrasesFrom`: the highlighted phrases are those of the search for phrases alone;
* `leadingPhrase?_quote_eq_none_iff`: where a quote begins no phrase;
* `phraseSpans_eq_tokenPhrases_iff`: when the tokenizer and the highlighting agree on phrases.
-/

namespace CandidateSearch

/-! ## Phrases of either side -/

/-- Where the highlighted phrases of a query lie, quotes included. -/
def phraseSpans (query : Text) : List Span := (spansOf query).filter (·.kind = .phrase)

/-- Where the phrase that a token stands for lies, quotes included, if it is not empty. -/
def Token.phraseSpan? (tok : Token) : Option Span :=
  match tok.lexeme with
  | .quoted (_ :: _) => some ⟨.phrase, tok.position, tok.stop⟩
  | _ => none

/-- Where the phrases among some tokens lie, but for the empty ones. -/
def tokenPhrases (tokens : List Token) : List Span := tokens.filterMap Token.phraseSpan?

/-! ## Where a phrase begins -/

/-- A quote follows at once, or none follows. -/
def QuoteNextOrNever (t : Text) : Prop := '"' ∈ t → t.head? = some '"'

instance (t : Text) : Decidable (QuoteNextOrNever t) :=
  inferInstanceAs (Decidable ('"' ∈ t → t.head? = some '"'))

/-- Only a quote begins a phrase. -/
theorem leadingPhrase?_of_ne {c : Char} (rest : Text) (h : c ≠ '"') :
    leadingPhrase? (c :: rest) = none := by
  unfold leadingPhrase?
  split
  · next heq => exact absurd (List.cons.inj heq).1 h
  · rfl

/-- A phrase that is not empty. -/
theorem leadingPhrase?_phrase {p : Text} (rest : Text) (hne : p ≠ []) (h : '"' ∉ p) :
    leadingPhrase? ('"' :: (p ++ '"' :: rest)) = some ('"' :: (p ++ ['"'])) := by
  obtain ⟨c, inner, rfl⟩ := List.exists_cons_of_ne_nil hne
  have hall : ∀ d ∈ c :: inner, (d != '"') = true := by
    intro d hd
    rw [bne_iff_ne]
    rintro rfl
    exact h hd
  have hdrop : (c :: inner ++ '"' :: rest).dropWhile (· != '"') = '"' :: rest := by
    rw [List.dropWhile_append_of_pos hall, List.dropWhile_cons_of_neg (by simp)]
  simp only [leadingPhrase?, Text.takeWhile_ne_append_cons rest h, hdrop]
  rfl

/-- **A quote begins no phrase** exactly if another one follows at once or none follows. -/
theorem leadingPhrase?_quote_eq_none_iff {rest : Text} :
    leadingPhrase? ('"' :: rest) = none ↔ QuoteNextOrNever rest := by
  constructor
  · intro h hmem
    obtain ⟨beyond, hbeyond⟩ := Option.ne_none_iff_exists'.mp
      (mt Text.after?_eq_none_iff.mp (not_not_intro hmem))
    obtain ⟨p, hp, rfl⟩ := Text.after?_eq_some hbeyond
    cases p with
    | nil => rfl
    | cons c p =>
      rw [leadingPhrase?_phrase beyond (List.cons_ne_nil c p) hp] at h
      cases h
  · intro h
    cases hlead : leadingPhrase? ('"' :: rest) with
    | none => rfl
    | some text =>
      obtain ⟨p, beyond, hne, hp, rfl, ht⟩ := leadingPhrase?_eq_some hlead
      obtain ⟨c, p, rfl⟩ := List.exists_cons_of_ne_nil hne
      obtain rfl : rest = c :: (p ++ '"' :: beyond) := by simpa using ht
      have hc := h (by simp)
      rw [List.head?_cons, Option.some.injEq] at hc
      exact absurd (hc ▸ List.mem_cons_self) hp

/-! ## A search for phrases alone -/

/-- Where the phrases lie that are found in a text that begins at a position, the leftmost first,
each behind the one before. -/
def phrasesFrom (pos : Nat) (t : Text) : List Span :=
  match t with
  | [] => []
  | c :: rest =>
    match leadingPhrase? (c :: rest) with
    | some text =>
      ⟨.phrase, pos, pos + text.length⟩
        :: phrasesFrom (pos + text.length) (rest.drop (text.length - 1))
    | none => phrasesFrom (pos + 1) rest
  termination_by t.length
  decreasing_by all_goals (simp only [List.length_drop, List.length_cons]; omega)

section Search

variable (pos : Nat) {c : Char} {p x : Text} (rest : Text)

theorem phrasesFrom_nil : phrasesFrom pos [] = [] := by
  rw [phrasesFrom]

/-- A character that begins no phrase is passed over. -/
theorem phrasesFrom_cons (h : leadingPhrase? (c :: rest) = none) :
    phrasesFrom pos (c :: rest) = phrasesFrom (pos + 1) rest := by
  rw [phrasesFrom, h]

/-- A phrase is found and passed over. -/
theorem phrasesFrom_phrase (hne : p ≠ []) (h : '"' ∉ p) :
    phrasesFrom pos ('"' :: (p ++ ['"']) ++ rest)
      = ⟨.phrase, pos, pos + (p.length + 2)⟩ :: phrasesFrom (pos + (p.length + 2)) rest := by
  have hsplit : '"' :: (p ++ ['"']) ++ rest = '"' :: (p ++ '"' :: rest) := by simp
  have hlength : ('"' :: (p ++ ['"'])).length = p.length + 2 := by simp
  have hdrop : (p ++ '"' :: rest).drop (p.length + 2 - 1) = rest := by
    rw [Nat.add_succ_sub_one, List.drop_length_add_append, List.drop_one, List.tail_cons]
  rw [hsplit, phrasesFrom, leadingPhrase?_phrase rest hne h]
  simp only [hlength, hdrop]

/-- A text without quotes is passed over. -/
theorem phrasesFrom_append (h : '"' ∉ x) :
    phrasesFrom pos (x ++ rest) = phrasesFrom (pos + x.length) rest := by
  induction x generalizing pos with
  | nil => rfl
  | cons c x ih =>
    rw [List.mem_cons, not_or] at h
    rw [List.cons_append, phrasesFrom_cons _ _ (leadingPhrase?_of_ne _ (Ne.symm h.1)), ih _ h.2,
      List.length_cons, Nat.add_assoc, Nat.add_comm 1]

end Search

/-- A phrase that is highlighted begins where the search for phrases alone finds one. -/
theorem leadingPhrase?_of_leadingMatch?_eq_none {afterWord : Bool} {t : Text}
    (h : leadingMatch? afterWord t = none) : leadingPhrase? t = none := by
  unfold leadingMatch? at h
  cases hphrase : leadingPhrase? t with
  | none => rfl
  | some p =>
    rw [hphrase] at h
    cases hmarker : leadingMarker? t <;> rw [hmarker] at h <;> cases h

/-- **Markers and operators do not matter for phrases**, since they hold no quotes. -/
theorem phraseSpans_segmentsFrom (pos : Nat) (afterWord : Bool) (t : Text) :
    (spansFrom pos (segmentsFrom afterWord t)).filter (·.kind = .phrase) = phrasesFrom pos t := by
  induction afterWord, t using segment_induction generalizing pos with
  | nil b => rw [segmentsFrom_nil, phrasesFrom_nil]; rfl
  | plain b c rest h ih =>
    rw [segmentsFrom_plain b rest h, spansFrom, ih,
      phrasesFrom_cons _ _ (leadingPhrase?_of_leadingMatch?_eq_none h)]
  | marked b kind text rest h ih =>
    rw [segmentsFrom_marked b rest h, spansFrom]
    rcases leadingMatch?_cases h with ⟨rfl, hmarker⟩ | ⟨rfl, hphrase⟩ | ⟨rfl, hoperator⟩
    · obtain ⟨l, beyond, -, hl, rfl, -⟩ := leadingMarker?_eq_some hmarker
      have hquote : '"' ∉ '+' :: (l ++ [':']) := by
        have hlq : '"' ∉ l := fun hq => by
          have hends := hl _ hq
          exact absurd hends (by decide)
        simp [hlq]
      rw [List.filter_cons_of_neg (by simp), ih, phrasesFrom_append _ _ hquote]
    · obtain ⟨p, beyond, hne, hp, rfl, -⟩ := leadingPhrase?_eq_some hphrase
      have hlength : ('"' :: (p ++ ['"'])).length = p.length + 2 := by simp
      rw [List.filter_cons_of_pos (by simp), ih, phrasesFrom_phrase _ _ hne hp, hlength]
    · obtain ⟨op, beyond, rfl, -⟩ := leadingOperator?_eq_some hoperator
      have hquote : '"' ∉ op.name := by cases op <;> decide
      rw [List.filter_cons_of_neg (by simp), ih, phrasesFrom_append _ _ hquote]

/-- **The highlighted phrases are those of the search for phrases alone.** -/
theorem phraseSpans_eq_phrasesFrom (query : Text) : phraseSpans query = phrasesFrom 0 query :=
  phraseSpans_segmentsFrom 0 false query

/-! ## Phrases of the tokenizer -/

/-- A token that is no phrase does not count. -/
theorem phraseSpan?_of_ne {tok : Token} (h : ∀ p, tok.lexeme ≠ .quoted p) :
    tok.phraseSpan? = none := by
  unfold Token.phraseSpan?
  split
  · next heq => exact absurd heq (h _)
  · rfl

/-- The phrases of a text that begins at a position lie behind it. -/
theorem le_start_of_mem_tokenPhrases {pos : Nat} {t : Text} {s : Span}
    (h : s ∈ tokenPhrases (tokensFrom pos t)) : pos ≤ s.start := by
  obtain ⟨tok, htok, hs⟩ := List.mem_filterMap.mp h
  have hposition := (position_of_mem_tokensFrom htok).1
  unfold Token.phraseSpan? at hs
  split at hs
  · cases hs
    exact hposition
  · cases hs

/-- Behind every empty phrase of a text that stands behind another, a quote follows at once or none
follows. -/
def InStep (front t : Text) : Prop :=
  ∀ tok ∈ tokensFrom front.length t, tok.lexeme = .quoted [] →
    QuoteNextOrNever ((front ++ t).drop tok.stop)

/-- The two searches agree on the phrases of a text that stands behind another. -/
def FindSame (front t : Text) : Prop :=
  phrasesFrom front.length t = tokenPhrases (tokensFrom front.length t)

/-- **Both searches pass over a stretch without phrases.** -/
theorem findSame_iff_of_passed {front x rest : Text} (tokens : List Token)
    (hphrases : phrasesFrom front.length (x ++ rest) = phrasesFrom (front ++ x).length rest)
    (htokens : tokensFrom front.length (x ++ rest)
      = tokens ++ tokensFrom (front ++ x).length rest)
    (hplain : ∀ tok ∈ tokens, ∀ p, tok.lexeme ≠ .quoted p)
    (h : FindSame (front ++ x) rest ↔ InStep (front ++ x) rest) :
    FindSame front (x ++ rest) ↔ InStep front (x ++ rest) := by
  have hnone : tokenPhrases tokens = [] :=
    List.filterMap_eq_nil_iff.mpr fun tok htok => phraseSpan?_of_ne (hplain tok htok)
  have hsame : FindSame front (x ++ rest) ↔ FindSame (front ++ x) rest := by
    rw [FindSame, FindSame, hphrases, htokens, tokenPhrases, List.filterMap_append,
      ← tokenPhrases, ← tokenPhrases, hnone, List.nil_append]
  have hstep : InStep front (x ++ rest) ↔ InStep (front ++ x) rest := by
    unfold InStep
    rw [htokens, ← List.append_assoc, List.forall_mem_append]
    exact and_iff_right fun tok htok hempty => absurd hempty (hplain tok htok [])
  rw [hsame, h, hstep]

section Phrase

variable {front p rest : Text}

/-- The tokens of a text with a phrase in front. -/
theorem tokensFrom_phrase_append (hp : '"' ∉ p) :
    tokensFrom front.length ('"' :: (p ++ ['"']) ++ rest)
      = ⟨.quoted p, front.length⟩ :: tokensFrom (front ++ '"' :: (p ++ ['"'])).length rest := by
  have hsplit : '"' :: (p ++ ['"']) ++ rest = '"' :: (p ++ '"' :: rest) := by simp
  have hlength : (front ++ '"' :: (p ++ ['"'])).length = front.length + (p.length + 2) := by
    simp
  rw [hsplit, hlength, tokensFrom_phrase _ _ hp]

/-- What an empty phrase asks of what follows it. -/
theorem inStep_phrase_iff (hp : '"' ∉ p) :
    InStep front ('"' :: (p ++ ['"']) ++ rest)
      ↔ (p = [] → QuoteNextOrNever rest) ∧ InStep (front ++ '"' :: (p ++ ['"'])) rest := by
  have hstop : (front ++ '"' :: (p ++ ['"']) ++ rest).drop
      (Token.stop ⟨.quoted p, front.length⟩) = rest := by
    have hlength : Token.stop ⟨.quoted p, front.length⟩
        = (front ++ '"' :: (p ++ ['"'])).length := by
      simp [Token.stop, Token.width, Lexeme.width]
    rw [hlength, List.drop_left]
  unfold InStep
  rw [tokensFrom_phrase_append hp, List.forall_mem_cons, ← List.append_assoc, hstop]
  simp only [Lexeme.quoted.injEq]

/-- **Both searches find a phrase that is not empty.** -/
theorem findSame_iff_of_phrase (hne : p ≠ []) (hp : '"' ∉ p)
    (h : FindSame (front ++ '"' :: (p ++ ['"'])) rest
      ↔ InStep (front ++ '"' :: (p ++ ['"'])) rest) :
    FindSame front ('"' :: (p ++ ['"']) ++ rest) ↔ InStep front ('"' :: (p ++ ['"']) ++ rest) := by
  have hlength : front.length + (p.length + 2) = (front ++ '"' :: (p ++ ['"'])).length := by
    simp
  have hspan : Token.phraseSpan? ⟨.quoted p, front.length⟩
      = some ⟨.phrase, front.length, front.length + (p.length + 2)⟩ := by
    obtain ⟨c, inner, rfl⟩ := List.exists_cons_of_ne_nil hne
    rfl
  have hsame : FindSame front ('"' :: (p ++ ['"']) ++ rest)
      ↔ FindSame (front ++ '"' :: (p ++ ['"'])) rest := by
    rw [FindSame, FindSame, phrasesFrom_phrase _ _ hne hp, tokensFrom_phrase_append hp,
      tokenPhrases, List.filterMap_cons_some hspan, hlength, List.cons.injEq]
    exact and_iff_right rfl
  rw [hsame, h, inStep_phrase_iff hp]
  exact (and_iff_right fun hnil => absurd hnil hne).symm

/-- **An empty phrase ends the agreement** unless a quote follows it at once or none follows. -/
theorem findSame_iff_of_empty
    (h : FindSame (front ++ ['"', '"']) rest ↔ InStep (front ++ ['"', '"']) rest) :
    FindSame front ('"' :: '"' :: rest) ↔ InStep front ('"' :: '"' :: rest) := by
  have hlength : (front ++ ['"', '"']).length = front.length + 1 + 1 := by simp
  have htokens : tokensFrom front.length ('"' :: '"' :: rest)
      = ⟨.quoted [], front.length⟩ :: tokensFrom (front ++ ['"', '"']).length rest :=
    tokensFrom_phrase_append (p := []) List.not_mem_nil
  have hstep : InStep front ('"' :: '"' :: rest)
      ↔ QuoteNextOrNever rest ∧ InStep (front ++ ['"', '"']) rest := by
    refine (inStep_phrase_iff (p := []) List.not_mem_nil).trans (and_congr_left' ?_)
    exact ⟨fun hnext => hnext rfl, fun hnext _ => hnext⟩
  have hfirst : leadingPhrase? ('"' :: '"' :: rest) = none :=
    leadingPhrase?_quote_eq_none_iff.mpr fun _ => rfl
  have hempty : Token.phraseSpan? ⟨.quoted [], front.length⟩ = none := rfl
  rw [hstep, FindSame, phrasesFrom_cons _ _ hfirst, htokens, tokenPhrases,
    List.filterMap_cons_none hempty, ← tokenPhrases]
  by_cases hnext : QuoteNextOrNever rest
  · -- the second quote begins no phrase either
    rw [phrasesFrom_cons _ _ (leadingPhrase?_quote_eq_none_iff.mpr hnext), ← hlength, ← FindSame, h]
    exact (and_iff_right hnext).symm
  · -- the second quote begins a phrase, and all phrases of the tokenizer begin later
    refine iff_of_false (fun hsame => ?_) fun hand => hnext hand.1
    obtain ⟨text, htext⟩ := Option.ne_none_iff_exists'.mp
      (mt leadingPhrase?_quote_eq_none_iff.mp hnext)
    obtain ⟨p, beyond, hne, hp, rfl, ht⟩ := leadingPhrase?_eq_some htext
    rw [ht, phrasesFrom_phrase _ _ hne hp] at hsame
    have hstart := le_start_of_mem_tokenPhrases (hsame ▸ List.mem_cons_self)
    rw [hlength] at hstart
    exact Nat.not_succ_le_self _ hstart

end Phrase

/-- **When the two searches agree on a text that stands behind another.** -/
theorem findSame_iff_inStep (front t : Text) : FindSame front t ↔ InStep front t := by
  induction t using scan_induction generalizing front with
  | nil =>
    refine iff_of_true ?_ ?_
    · rw [FindSame, phrasesFrom_nil, tokensFrom_nil]
      rfl
    · rw [InStep, tokensFrom_nil]
      exact fun tok htok => absurd htok List.not_mem_nil
  | blank c rest hb ih =>
    have hquote : '"' ∉ [c] := fun hq =>
      ne_quote_of_isBlank hb (List.mem_singleton.mp hq).symm
    refine findSame_iff_of_passed (x := [c]) [] ?_ ?_ (by simp) (ih _)
    · rw [phrasesFrom_append _ _ hquote, List.length_append]
    · rw [List.length_append]
      exact tokensFrom_blank _ _ hb
  | mark c l rest hl ih =>
    have hquote : '"' ∉ [c] := fun hq =>
      ne_quote_of_ofMark? hl (List.mem_singleton.mp hq).symm
    refine findSame_iff_of_passed (x := [c]) [⟨l, front.length⟩] ?_ ?_ ?_ (ih _)
    · rw [phrasesFrom_append _ _ hquote, List.length_append]
    · rw [List.length_append]
      exact tokensFrom_mark _ _ hl
    · rw [List.forall_mem_singleton]
      rcases ofMark?_eq_some hl with ⟨-, rfl⟩ | ⟨-, rfl⟩ | ⟨-, rfl⟩ <;> exact fun p => by simp
  | phrase p rest hp ih =>
    have hsplit : '"' :: (p ++ '"' :: rest) = '"' :: (p ++ ['"']) ++ rest := by simp
    by_cases hne : p = []
    · rw [hne]
      exact findSame_iff_of_empty (ih _)
    · rw [hsplit]
      exact findSame_iff_of_phrase hne hp (ih _)
  | looseQuote rest hq ih =>
    refine findSame_iff_of_passed (x := ['"']) [] ?_ ?_ (by simp) (ih _)
    · rw [List.length_append]
      exact phrasesFrom_cons _ _ (leadingPhrase?_quote_eq_none_iff.mpr fun hmem => absurd hmem hq)
    · rw [List.length_append]
      exact tokensFrom_looseQuote _ _ hq
  | word w rest hne hw hrest ih =>
    have hquote : '"' ∉ w := fun hq => (isWordPart_iff.mp (hw _ hq)).2.1 rfl
    refine findSame_iff_of_passed [⟨.ofWord w, front.length⟩] ?_ ?_ ?_ (ih _)
    · rw [phrasesFrom_append _ _ hquote, List.length_append]
    · rw [List.length_append, tokensFrom_word _ _ hne hw hrest]
      rfl
    · rw [List.forall_mem_singleton]
      rcases ofWord_cases w with hword | ⟨op, hword⟩ <;> exact fun p => by simp [hword]

/-- **When the tokenizer and the highlighting agree on phrases.**  The highlighted phrases of a
query are the phrases of its tokens that are not empty exactly if behind every empty phrase a quote
follows at once or no quote follows at all. -/
theorem phraseSpans_eq_tokenPhrases_iff (query : Text) :
    phraseSpans query = tokenPhrases (tokenize query)
      ↔ ∀ tok ∈ tokenize query, tok.lexeme = .quoted [] →
          QuoteNextOrNever (query.drop tok.stop) := by
  rw [phraseSpans_eq_phrasesFrom]
  exact findSame_iff_inStep [] query

/-- A query with an empty phrase and a phrase behind it. -/
def emptyPhraseQuery : Text := "\"\" A \"B\"".toList

/-- **An empty phrase can make the highlighting pair other quotes than the tokenizer**: it shows the
text between two phrases as one. -/
theorem exists_other_phrases :
    ¬ ∀ query : Text, phraseSpans query = tokenPhrases (tokenize query) := by
  intro h
  have hsame := h emptyPhraseQuery
  have hshown : phraseSpans emptyPhraseQuery = [⟨.phrase, 1, 6⟩] := by decide +kernel
  have hread : tokenPhrases (tokenize emptyPhraseQuery) = [⟨.phrase, 5, 8⟩] := by decide +kernel
  rw [hshown, hread] at hsame
  exact absurd hsame (by decide)

end CandidateSearch

import CandidateSearch.Proofs.Lexemes

/-!
# Terms and operators of a content

Which terms a content yields depends on its lexemes alone.  `markLexemes` is the reading of negation
on lexemes, and the laws below say how it runs over one list after another.

* `isTerm_of_mem_lexemes`: every term is the trimmed text of a word or phrase, so it is not empty,
  is trimmed, holds no quote and is a stretch of the content;
* `scanOperators_append_cons`: a character outside of words separates the operators on its two
  sides;
* `extractTerms_append_separators`: blanks and commas at the end of a content change nothing.
-/

namespace CandidateSearch

/-! ## Negation on lexemes -/

/-- The terms of the remaining lexemes, each with whether NOT applies to it. -/
def markLexemes (s : NegationState) : List Lexeme → List MarkedTerm
  | [] => []
  | l :: rest =>
    match l.term? with
    | some text => ⟨text, s.negates⟩ :: markLexemes (s.step l) rest
    | none => markLexemes (s.step l) rest

/-- The state after some lexemes have been read. -/
def NegationState.run (s : NegationState) (ls : List Lexeme) : NegationState := ls.foldl step s

/-- Marking tokens is marking their lexemes. -/
theorem markNegationFrom_eq_markLexemes (s : NegationState) (ts : List Token) :
    markNegationFrom s ts = markLexemes s (ts.map (·.lexeme)) := by
  induction ts generalizing s with
  | nil => rfl
  | cons t ts ih =>
    rw [markNegationFrom, List.map_cons, markLexemes]
    cases t.lexeme.term? with
    | none => exact ih _
    | some text => exact congrArg _ (ih _)

/-- A term in front is marked by the state in which it is read. -/
theorem markLexemes_cons_some {s : NegationState} {l : Lexeme} {text : Text} (ls : List Lexeme)
    (h : l.term? = some text) :
    markLexemes s (l :: ls) = ⟨text, s.negates⟩ :: markLexemes (s.step l) ls := by
  rw [markLexemes, h]

/-- A lexeme that stands for no term only changes the state. -/
theorem markLexemes_cons_none {s : NegationState} {l : Lexeme} (ls : List Lexeme)
    (h : l.term? = none) : markLexemes s (l :: ls) = markLexemes (s.step l) ls := by
  rw [markLexemes, h]

/-- Lexemes are marked one list after the other. -/
theorem markLexemes_append (s : NegationState) (a b : List Lexeme) :
    markLexemes s (a ++ b) = markLexemes s a ++ markLexemes (s.run a) b := by
  induction a generalizing s with
  | nil => rfl
  | cons l a ih =>
    have hrun : s.run (l :: a) = (s.step l).run a := rfl
    cases h : l.term? with
    | none =>
      rw [List.cons_append, markLexemes_cons_none _ h, markLexemes_cons_none _ h, ih, hrun]
    | some text =>
      rw [List.cons_append, markLexemes_cons_some _ h, markLexemes_cons_some _ h, ih, hrun,
        List.cons_append]

/-- The texts that are marked are the terms of the lexemes. -/
theorem map_text_markLexemes (s : NegationState) (ls : List Lexeme) :
    (markLexemes s ls).map (·.text) = ls.filterMap Lexeme.term? := by
  induction ls generalizing s with
  | nil => rfl
  | cons l ls ih =>
    cases h : l.term? with
    | none => rw [markLexemes_cons_none _ h, ih, List.filterMap_cons_none h]
    | some text =>
      rw [markLexemes_cons_some _ h, List.map_cons, ih, List.filterMap_cons_some h]

/-- The terms that stay are chosen one by one. -/
theorem keptTerms_append (excludeNegated : Bool) (a b : List MarkedTerm) :
    keptTerms excludeNegated (a ++ b) = keptTerms excludeNegated a ++ keptTerms excludeNegated b := by
  rw [keptTerms, List.filter_append, List.map_append, ← keptTerms, ← keptTerms]

/-! ## The terms of a content -/

/-- The terms of a content in terms of its lexemes. -/
theorem terms_extractTerms (content : Text) (excludeNegated : Bool) :
    (extractTerms content excludeNegated).terms
      = (keptTerms excludeNegated (markLexemes .start (lexemes content))).eraseDups := by
  rw [extractTerms, markNegation, markNegationFrom_eq_markLexemes]
  rfl

/-- When negated terms stay, the terms are those of the lexemes, each once. -/
theorem terms_extractTerms_false (content : Text) :
    (extractTerms content false).terms
      = ((lexemes content).filterMap Lexeme.term?).eraseDups := by
  rw [terms_extractTerms, keptTerms, ← map_text_markLexemes .start]
  simp

/-- A lexeme stands for a term if it is a word or a phrase that is not blank. -/
theorem term?_eq_some {l : Lexeme} {t : Text} (h : l.term? = some t) :
    ∃ s, (l = .word s ∨ l = .quoted s) ∧ t = s.trim ∧ t ≠ [] := by
  unfold Lexeme.term? at h
  split at h
  · next s =>
    split_ifs at h with hs
    cases h
    exact ⟨s, Or.inl rfl, rfl, by simpa using hs⟩
  · next s =>
    split_ifs at h with hs
    cases h
    exact ⟨s, Or.inr rfl, rfl, by simpa using hs⟩
  · cases h

/-- **What a term is made of.**  Every term of a content is the term of one of its lexemes. -/
theorem exists_lexeme_of_mem_terms {content t : Text} {excludeNegated : Bool}
    (h : t ∈ (extractTerms content excludeNegated).terms) :
    ∃ l ∈ lexemes content, l.term? = some t := by
  rw [terms_extractTerms, List.mem_eraseDups, keptTerms] at h
  obtain ⟨m, hm, rfl⟩ := List.mem_map.mp h
  have hmem : m.text ∈ (markLexemes .start (lexemes content)).map (·.text) :=
    List.mem_map_of_mem (List.mem_of_mem_filter hm)
  rw [map_text_markLexemes, List.mem_filterMap] at hmem
  exact hmem

/-- A text that may stand in the lists of a query: not empty, trimmed and without quotes. -/
def IsTerm (t : Text) : Prop := t ≠ [] ∧ t.trim = t ∧ '"' ∉ t

instance (t : Text) : Decidable (IsTerm t) :=
  inferInstanceAs (Decidable (t ≠ [] ∧ t.trim = t ∧ '"' ∉ t))

/-- The term of a lexeme of a text is well formed and a stretch of the text. -/
theorem isTerm_of_mem_lexemes {text t : Text} {l : Lexeme} (hl : l ∈ lexemes text)
    (ht : l.term? = some t) : IsTerm t ∧ t <:+: text := by
  obtain ⟨s, hs, rfl, hne⟩ := term?_eq_some ht
  have hmem : .word s ∈ lexemes text ∨ .quoted s ∈ lexemes text := by
    rcases hs with rfl | rfl
    · exact Or.inl hl
    · exact Or.inr hl
  obtain ⟨hstretch, hquote⟩ := isInfix_of_mem_lexemes hmem
  have htrim : s.trim <:+: s := Text.trim_isInfix s
  exact ⟨⟨hne, Text.trim_trim s, fun h => hquote (htrim.subset h)⟩, htrim.trans hstretch⟩

/-- The terms of a content are pairwise different. -/
theorem nodup_terms_extractTerms (content : Text) (excludeNegated : Bool) :
    (extractTerms content excludeNegated).terms.Nodup := by
  rw [terms_extractTerms]
  exact nodup_eraseDups _

/-! ## Operators -/

/-- A character outside of words separates the operators on its two sides. -/
theorem scanOperators_append_cons (a b : Text) {c : Char} (h : isWordCharacter c = false) :
    scanOperators (a ++ c :: b) = scanOperators a ++ scanOperators b := by
  rw [scanOperators, wordStretches, List.splitOnP_append_cons _ _ (by simp [h]),
    List.filterMap_append]
  rfl

/-- A character outside of words in front holds no operator. -/
theorem scanOperators_cons (t : Text) {c : Char} (h : isWordCharacter c = false) :
    scanOperators (c :: t) = scanOperators t :=
  scanOperators_append_cons [] t h

/-- A text without word characters in front holds no operator. -/
theorem scanOperators_append_of_forall {z : Text} (t : Text)
    (h : ∀ c ∈ z, isWordCharacter c = false) : scanOperators (z ++ t) = scanOperators t := by
  induction z with
  | nil => rfl
  | cons c z ih =>
    rw [List.cons_append, scanOperators_cons _ (h c List.mem_cons_self),
      ih fun d hd => h d (List.mem_cons_of_mem c hd)]

/-- A text without word characters holds no operator. -/
theorem scanOperators_of_forall {t : Text} (h : ∀ c ∈ t, isWordCharacter c = false) :
    scanOperators t = [] := by
  rw [← List.append_nil t, scanOperators_append_of_forall [] h]
  rfl

/-- Word characters are letters and digits of ASCII, and underscores. -/
theorem isWordCharacter_eq (c : Char) :
    isWordCharacter c
      = (decide ('A'.val ≤ c.val ∧ c.val ≤ 'Z'.val)
          || (decide ('a'.val ≤ c.val) && decide (c.val ≤ 'z'.val))
          || (decide ('0'.val ≤ c.val) && decide (c.val ≤ '9'.val)) || c == '_') := rfl

/-- The word characters lie between the digit 0 and the letter z. -/
theorem toNat_of_isWordCharacter {c : Char} (h : isWordCharacter c = true) :
    48 ≤ c.toNat ∧ c.toNat ≤ 122 := by
  rw [isWordCharacter_eq] at h
  simp only [Bool.or_eq_true, Bool.and_eq_true, decide_eq_true_eq, beq_iff_eq,
    UInt32.le_iff_toNat_le] at h
  rcases h with h | rfl
  · show 48 ≤ c.val.toNat ∧ c.val.toNat ≤ 122
    simp only [Char.reduceVal, UInt32.reduceToNat] at h
    omega
  · decide

/-- No word character is blank. -/
theorem isWordCharacter_of_isBlank {c : Char} (h : isBlank c = true) :
    isWordCharacter c = false := by
  rw [Bool.eq_false_iff]
  intro hw
  obtain ⟨hlow, hhigh⟩ := toNat_of_isWordCharacter hw
  simp only [isBlank, Bool.or_eq_true, Bool.and_eq_true, decide_eq_true_eq, beq_iff_eq] at h
  omega

/-! ## Separators -/

/-- A text of blanks and commas. -/
def IsSeparator (z : Text) : Prop := ∀ c ∈ z, isBlank c = true ∨ c = ','

/-- The rest of a separator. -/
theorem IsSeparator.tail {c : Char} {z : Text} (h : IsSeparator (c :: z)) : IsSeparator z :=
  fun d hd => h d (List.mem_cons_of_mem c hd)

/-- A separator in front is read as its commas. -/
theorem lexemes_separator_append {z : Text} (h : IsSeparator z) (t : Text) :
    lexemes (z ++ t) = List.replicate (z.count ',') .comma ++ lexemes t := by
  induction z with
  | nil => rfl
  | cons c z ih =>
    rcases h c List.mem_cons_self with hc | rfl
    · have hne : c ≠ ',' := by
        rintro rfl
        exact absurd hc (by decide)
      rw [List.cons_append, lexemes_blank _ hc, List.count_cons_of_ne hne, ih h.tail]
    · rw [List.cons_append, lexemes_mark _ rfl, List.count_cons_self, List.replicate_succ,
        List.cons_append, ih h.tail]

/-- A separator holds commas only. -/
theorem lexemes_separator {z : Text} (h : IsSeparator z) : ∀ l ∈ lexemes z, l = .comma := by
  rw [← List.append_nil z, lexemes_separator_append h, lexemes_nil, List.append_nil]
  exact fun l hl => List.eq_of_mem_replicate hl

/-- Commas stand for no terms. -/
theorem markLexemes_commas (s : NegationState) {ls : List Lexeme} (h : ∀ l ∈ ls, l = .comma) :
    markLexemes s ls = [] := by
  induction ls generalizing s with
  | nil => rfl
  | cons l ls ih =>
    rw [h l List.mem_cons_self, markLexemes_cons_none _ rfl]
    exact ih _ fun l hl => h l (List.mem_cons_of_mem _ hl)

/-- A separator does not begin inside a word, and holds neither quotes nor word characters. -/
theorem IsSeparator.beginsApart {z : Text} (h : IsSeparator z) : BeginsApart z := by
  intro c hc
  rcases h c (List.mem_of_mem_head? hc) with hb | rfl
  · simp [isWordPart, hb]
  · rfl

theorem IsSeparator.not_mem_quote {z : Text} (h : IsSeparator z) : '"' ∉ z := by
  intro hq
  rcases h _ hq with hb | hc
  · exact absurd hb (by decide)
  · exact absurd hc (by decide)

theorem IsSeparator.not_isWordCharacter {z : Text} (h : IsSeparator z) :
    ∀ c ∈ z, isWordCharacter c = false := by
  intro c hc
  rcases h c hc with hb | rfl
  · exact isWordCharacter_of_isBlank hb
  · rfl

/-- The empty content yields neither terms nor operators. -/
theorem extractTerms_nil (excludeNegated : Bool) :
    extractTerms [] excludeNegated = ⟨[], []⟩ := by
  rw [extractTerms, tokenize, scanFrom_nil]
  cases excludeNegated <;> rfl

/-- **Separators at the end of a content change nothing.** -/
theorem extractTerms_append_separators (content : Text) {z : Text} (h : IsSeparator z)
    (excludeNegated : Bool) :
    extractTerms (content ++ z) excludeNegated = extractTerms content excludeNegated := by
  have hterms : (extractTerms (content ++ z) excludeNegated).terms
      = (extractTerms content excludeNegated).terms := by
    rw [terms_extractTerms, terms_extractTerms,
      lexemes_append h.beginsApart (Or.inr h.not_mem_quote), markLexemes_append,
      markLexemes_commas _ (lexemes_separator h), List.append_nil]
  have hoperators : scanOperators (content ++ z) = scanOperators content := by
    cases z with
    | nil => rw [List.append_nil]
    | cons c z =>
      rw [scanOperators_append_cons _ _ (h.not_isWordCharacter c List.mem_cons_self),
        scanOperators_of_forall h.tail.not_isWordCharacter, List.append_nil]
  calc extractTerms (content ++ z) excludeNegated
      = ⟨(extractTerms (content ++ z) excludeNegated).terms, scanOperators (content ++ z)⟩ := rfl
    _ = extractTerms content excludeNegated := by rw [hterms, hoperators]; rfl

/-- A blank content yields neither terms nor operators. -/
theorem extractTerms_of_trim_eq_nil {content : Text} (h : content.trim = [])
    (excludeNegated : Bool) : extractTerms content excludeNegated = ⟨[], []⟩ := by
  have hblank : IsSeparator content := fun c hc => Or.inl (Text.trim_eq_nil_iff.mp h c hc)
  have happend := extractTerms_append_separators [] hblank excludeNegated
  rw [List.nil_append] at happend
  rw [happend, extractTerms_nil]

end CandidateSearch

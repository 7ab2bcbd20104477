import CandidateSearch.Proofs.Text
import CandidateSearch.Query.Terms

/-!
# Reading a text as lexemes

The scanner advances by one blank, one punctuation mark, one phrase, one quote without a partner or
one word at a time.  `scan_induction` is the induction that follows these steps, and the equations
beside it say what each step finds.  From them come the laws that the readers of a content share:

* `scanFrom_add`: the position at which a text begins only moves what is found;
* `lexemes_append`: two texts are read one after the other when no phrase and no word can cross the
  seam;
* `isInfix_of_mem_lexemes`: words and phrases are stretches of the text without quotes.
-/

namespace CandidateSearch

/-! ## Steps of the scanner -/

/-- The lexeme of a punctuation mark. -/
def Lexeme.ofMark? (c : Char) : Option Lexeme :=
  if c = '(' then some .opening
  else if c = ')' then some .closing
  else if c = ',' then some .comma
  else none

/-- The text does not begin inside a word. -/
def BeginsApart (t : Text) : Prop := ∀ c ∈ t.head?, isWordPart c = false

/-- What its first character is not part of. -/
theorem beginsApart_cons {c : Char} (rest : Text) (h : isWordPart c = false) :
    BeginsApart (c :: rest) := by
  intro d hd
  rw [List.head?_cons, Option.mem_some_iff] at hd
  rw [← hd]
  exact h

/-- A punctuation mark is one of three characters. -/
theorem ofMark?_eq_some {c : Char} {l : Lexeme} (h : Lexeme.ofMark? c = some l) :
    c = '(' ∧ l = .opening ∨ c = ')' ∧ l = .closing ∨ c = ',' ∧ l = .comma := by
  unfold Lexeme.ofMark? at h
  split_ifs at h with h₁ h₂ h₃
  · exact Or.inl ⟨h₁, (Option.some.inj h).symm⟩
  · exact Or.inr (Or.inl ⟨h₂, (Option.some.inj h).symm⟩)
  · exact Or.inr (Or.inr ⟨h₃, (Option.some.inj h).symm⟩)

/-- A character of a word is neither blank nor a mark nor a quote. -/
theorem isWordPart_iff {c : Char} :
    isWordPart c = true ↔
      isBlank c = false ∧ c ≠ '"' ∧ c ≠ '(' ∧ c ≠ ')' ∧ c ≠ ',' := by
  simp [isWordPart, isWordBreak, and_assoc]

/-- Every character is blank, a mark, a quote or part of a word. -/
theorem character_cases (c : Char) :
    isBlank c = true ∨ (∃ l, Lexeme.ofMark? c = some l) ∨ c = '"' ∨ isWordPart c = true := by
  by_cases hb : isBlank c = true
  · exact Or.inl hb
  · by_cases h₁ : c = '('
    · exact Or.inr (Or.inl ⟨.opening, by rw [h₁]; rfl⟩)
    · by_cases h₂ : c = ')'
      · exact Or.inr (Or.inl ⟨.closing, by rw [h₂]; rfl⟩)
      · by_cases h₃ : c = ','
        · exact Or.inr (Or.inl ⟨.comma, by rw [h₃]; rfl⟩)
        · by_cases h₄ : c = '"'
          · exact Or.inr (Or.inr (Or.inl h₄))
          · refine Or.inr (Or.inr (Or.inr (isWordPart_iff.mpr ?_)))
            exact ⟨by simpa using hb, h₄, h₁, h₂, h₃⟩

/-- The rest of a word ends where the text begins apart. -/
theorem beginsApart_dropWhile (t : Text) : BeginsApart (t.dropWhile isWordPart) := by
  intro c hc
  have h := List.head?_dropWhile_not isWordPart t
  rw [Option.mem_def.mp hc] at h
  simpa using h

/-- A text that begins apart has no word in front. -/
theorem takeWhile_of_beginsApart {t : Text} (h : BeginsApart t) : t.takeWhile isWordPart = [] := by
  cases t with
  | nil => rfl
  | cons c rest => rw [List.takeWhile_cons_of_neg (by simp [h c rfl])]

/-- A text that begins apart loses nothing when a word is dropped. -/
theorem dropWhile_of_beginsApart {t : Text} (h : BeginsApart t) : t.dropWhile isWordPart = t := by
  cases t with
  | nil => rfl
  | cons c rest => rw [List.dropWhile_cons_of_neg (by simp [h c rfl])]

/-- **Induction along the scanner.**  A text is empty, or begins with a blank, a mark, a closed
phrase, a quote without a partner, or a whole word. -/
theorem scan_induction {motive : Text → Prop} (nil : motive [])
    (blank : ∀ c rest, isBlank c = true → motive rest → motive (c :: rest))
    (mark : ∀ c l rest, Lexeme.ofMark? c = some l → motive rest → motive (c :: rest))
    (phrase : ∀ p rest, '"' ∉ p → motive rest → motive ('"' :: (p ++ '"' :: rest)))
    (looseQuote : ∀ rest, '"' ∉ rest → motive rest → motive ('"' :: rest))
    (word : ∀ w rest, w ≠ [] → (∀ c ∈ w, isWordPart c = true) → BeginsApart rest →
      motive rest → motive (w ++ rest))
    (t : Text) : motive t := by
  match t with
  | [] => exact nil
  | c :: rest =>
    rcases character_cases c with hb | ⟨l, hl⟩ | rfl | hw
    · exact blank c rest hb (scan_induction nil blank mark phrase looseQuote word rest)
    · exact mark c l rest hl (scan_induction nil blank mark phrase looseQuote word rest)
    · cases h : Text.after? '"' rest with
      | none =>
        exact looseQuote rest (Text.after?_eq_none_iff.mp h)
          (scan_induction nil blank mark phrase looseQuote word rest)
      | some beyond =>
        have hlen := Text.length_of_after? h
        obtain ⟨p, hp, hrest⟩ := Text.after?_eq_some h
        rw [hrest]
        exact phrase p beyond hp (scan_induction nil blank mark phrase looseQuote word beyond)
    · -- a word reaches as far as its characters do, so what is left begins apart
      have hlen : (rest.dropWhile isWordPart).length ≤ rest.length :=
        (List.dropWhile_suffix _).length_le
      have hsplit : c :: rest = (c :: rest.takeWhile isWordPart) ++ rest.dropWhile isWordPart := by
        rw [List.cons_append, List.takeWhile_append_dropWhile]
      rw [hsplit]
      refine word _ _ (List.cons_ne_nil _ _) ?_ (beginsApart_dropWhile rest)
        (scan_induction nil blank mark phrase looseQuote word _)
      intro d hd
      rcases List.mem_cons.mp hd with rfl | hd
      · exact hw
      · exact List.mem_takeWhile_imp hd
  termination_by t.length
  decreasing_by all_goals (simp only [List.length_cons]; omega)

section Steps

variable (pos : Nat) {c : Char} {l : Lexeme} {p w : Text} (rest : Text)

theorem scanFrom_nil : scanFrom pos [] = [] := by
  rw [scanFrom]

/-- A blank is passed over. -/
theorem scanFrom_blank (h : isBlank c = true) :
    scanFrom pos (c :: rest) = scanFrom (pos + 1) rest := by
  rw [scanFrom, if_pos h]

/-- A mark is a token of its own. -/
theorem scanFrom_mark (h : Lexeme.ofMark? c = some l) :
    scanFrom pos (c :: rest) = .token ⟨l, pos⟩ :: scanFrom (pos + 1) rest := by
  rw [scanFrom]
  rcases ofMark?_eq_some h with ⟨rfl, rfl⟩ | ⟨rfl, rfl⟩ | ⟨rfl, rfl⟩ <;> rfl

/-- A closed phrase is one token. -/
theorem scanFrom_phrase (h : '"' ∉ p) :
    scanFrom pos ('"' :: (p ++ '"' :: rest))
      = .token ⟨.quoted p, pos⟩ :: scanFrom (pos + p.length + 2) rest := by
  rw [scanFrom, if_neg (by decide), if_neg (by decide), if_neg (by decide), if_neg (by decide),
    if_pos rfl]
  split
  · next hnone => rw [Text.after?_append_cons rest h] at hnone; cases hnone
  · next beyond hsome =>
    rw [Text.after?_append_cons rest h] at hsome
    cases hsome
    rw [Text.takeWhile_ne_append_cons rest h]

/-- A quote without a partner is passed over. -/
theorem scanFrom_looseQuote (h : '"' ∉ rest) :
    scanFrom pos ('"' :: rest) = .looseQuote pos :: scanFrom (pos + 1) rest := by
  rw [scanFrom, if_neg (by decide), if_neg (by decide), if_neg (by decide), if_neg (by decide),
    if_pos rfl]
  split
  · rfl
  · next beyond hsome => rw [Text.after?_eq_none_iff.mpr h] at hsome; cases hsome

/-- A whole word is one token. -/
theorem scanFrom_word (hne : w ≠ []) (hw : ∀ c ∈ w, isWordPart c = true)
    (hrest : BeginsApart rest) :
    scanFrom pos (w ++ rest) = .token ⟨.ofWord w, pos⟩ :: scanFrom (pos + w.length) rest := by
  obtain ⟨c, r, rfl⟩ := List.exists_cons_of_ne_nil hne
  obtain ⟨hb, hquote, hopen, hclose, hcomma⟩ := isWordPart_iff.mp (hw c List.mem_cons_self)
  have hr : ∀ d ∈ r, isWordPart d = true := fun d hd => hw d (List.mem_cons_of_mem c hd)
  rw [List.cons_append, scanFrom, if_neg (by simp [hb]), if_neg hopen, if_neg hclose,
    if_neg hcomma, if_neg hquote, List.takeWhile_append_of_pos hr, List.dropWhile_append_of_pos hr,
    takeWhile_of_beginsApart hrest, dropWhile_of_beginsApart hrest, List.append_nil]

end Steps

/-! ## Positions -/

/-- The same finding in a text that begins `k` characters later. -/
def Scanned.shift (k : Nat) : Scanned → Scanned
  | .token t => .token ⟨t.lexeme, k + t.position⟩
  | .looseQuote pos => .looseQuote (k + pos)

/-- The position at which a text begins only moves what is found in it. -/
theorem scanFrom_add (k pos : Nat) (t : Text) :
    scanFrom (k + pos) t = (scanFrom pos t).map (Scanned.shift k) := by
  induction t using scan_induction generalizing pos with
  | nil => rw [scanFrom_nil, scanFrom_nil, List.map_nil]
  | blank c rest hb ih => rw [scanFrom_blank _ _ hb, scanFrom_blank _ _ hb, Nat.add_assoc, ih]
  | mark c l rest hl ih =>
    rw [scanFrom_mark _ _ hl, scanFrom_mark _ _ hl, List.map_cons, Nat.add_assoc, ih]
    rfl
  | phrase p rest hp ih =>
    rw [scanFrom_phrase _ _ hp, scanFrom_phrase _ _ hp, List.map_cons, Nat.add_assoc, Nat.add_assoc,
      ih, ← Nat.add_assoc]
    rfl
  | looseQuote rest hq ih =>
    rw [scanFrom_looseQuote _ _ hq, scanFrom_looseQuote _ _ hq, List.map_cons, Nat.add_assoc, ih]
    rfl
  | word w rest hne hw hrest ih =>
    rw [scanFrom_word _ _ hne hw hrest, scanFrom_word _ _ hne hw hrest, List.map_cons,
      Nat.add_assoc, ih]
    rfl

/-- The same token in a text that begins `k` characters later. -/
def Token.shift (k : Nat) (tok : Token) : Token := ⟨tok.lexeme, k + tok.position⟩

/-- The tokens move with what is found. -/
theorem tokensOf_shift (k : Nat) (found : List Scanned) :
    tokensOf (found.map (Scanned.shift k)) = (tokensOf found).map (Token.shift k) := by
  induction found with
  | nil => rfl
  | cons s found ih =>
    cases s with
    | token t => exact congrArg (List.cons (Token.shift k t)) ih
    | looseQuote pos => exact ih

/-- The tokens keep their lexemes when the text begins later. -/
theorem map_lexeme_tokensOf_shift (k : Nat) (found : List Scanned) :
    (tokensOf (found.map (Scanned.shift k))).map (·.lexeme)
      = (tokensOf found).map (·.lexeme) := by
  rw [tokensOf_shift, List.map_map]
  rfl

/-! ## Lexemes of a text -/

/-- The lexemes of a text, in order. -/
def lexemes (t : Text) : List Lexeme := (tokenize t).map (·.lexeme)

/-- The lexemes do not depend on the position at which the text begins. -/
theorem map_lexeme_scanFrom (pos : Nat) (t : Text) :
    (tokensOf (scanFrom pos t)).map (·.lexeme) = lexemes t := by
  rw [lexemes, tokenize, ← Nat.add_zero pos, scanFrom_add, map_lexeme_tokensOf_shift]

section Lexemes

variable {c : Char} {l : Lexeme} {p w : Text} (rest : Text)

@[simp] theorem lexemes_nil : lexemes [] = [] := by
  rw [lexemes, tokenize, scanFrom_nil]
  rfl

/-- A blank in front says nothing. -/
theorem lexemes_blank (h : isBlank c = true) : lexemes (c :: rest) = lexemes rest := by
  rw [← map_lexeme_scanFrom 0, scanFrom_blank 0 rest h, map_lexeme_scanFrom]

/-- A mark in front. -/
theorem lexemes_mark (h : Lexeme.ofMark? c = some l) : lexemes (c :: rest) = l :: lexemes rest := by
  rw [← map_lexeme_scanFrom 0, scanFrom_mark 0 rest h, ← map_lexeme_scanFrom 1 rest]
  rfl

/-- A closed phrase in front. -/
theorem lexemes_phrase (h : '"' ∉ p) :
    lexemes ('"' :: (p ++ '"' :: rest)) = .quoted p :: lexemes rest := by
  rw [← map_lexeme_scanFrom 0, scanFrom_phrase 0 rest h, ← map_lexeme_scanFrom _ rest]
  rfl

/-- A quote without a partner in front says nothing. -/
theorem lexemes_looseQuote (h : '"' ∉ rest) : lexemes ('"' :: rest) = lexemes rest := by
  rw [← map_lexeme_scanFrom 0, scanFrom_looseQuote 0 rest h, ← map_lexeme_scanFrom 1 rest]
  rfl

/-- A whole word in front. -/
theorem lexemes_word (hne : w ≠ []) (hw : ∀ c ∈ w, isWordPart c = true) (hrest : BeginsApart rest) :
    lexemes (w ++ rest) = .ofWord w :: lexemes rest := by
  rw [← map_lexeme_scanFrom 0, scanFrom_word 0 rest hne hw hrest, ← map_lexeme_scanFrom _ rest]
  rfl

/-- A space in front says nothing. -/
theorem lexemes_space : lexemes (' ' :: rest) = lexemes rest :=
  lexemes_blank rest (by decide)

/-- The word of an operator in front, set off by spaces. -/
theorem lexemes_operator (op : Operator) :
    lexemes (' ' :: (op.name ++ ' ' :: rest)) = .operator op :: lexemes rest := by
  have hne : op.name ≠ [] := by cases op <;> decide
  have hword : ∀ c ∈ op.name, isWordPart c = true := by
    cases op <;> exact Text.forall_mem_of_all (by decide)
  have hname : Lexeme.ofWord op.name = .operator op := by cases op <;> decide +kernel
  rw [lexemes_space, lexemes_word _ hne hword (beginsApart_cons rest (by decide)), hname,
    lexemes_space]

end Lexemes

/-! ## Reading one text after another -/

/-- A text that follows another begins apart if both do. -/
theorem BeginsApart.append {a b : Text} (ha : BeginsApart a) (hb : BeginsApart b) :
    BeginsApart (a ++ b) := by
  cases a with
  | nil => exact hb
  | cons c a => exact ha

/-- A blank or a mark is not a quote. -/
theorem ne_quote_of_isBlank {c : Char} (h : isBlank c = true) : c ≠ '"' := by
  rintro rfl
  exact absurd h (by decide)

/-- A mark is not a quote. -/
theorem ne_quote_of_ofMark? {c : Char} {l : Lexeme} (h : Lexeme.ofMark? c = some l) : c ≠ '"' := by
  rintro rfl
  cases h

/-- **A text is scanned to its end and on into the next** when the next begins apart and no phrase
can cross the seam: either the quotes of the first are in pairs, or the second holds no quote. -/
theorem scanFrom_append {a b : Text} (pos : Nat) (hb : BeginsApart b)
    (hquotes : a.count '"' % 2 = 0 ∨ '"' ∉ b) :
    scanFrom pos (a ++ b) = scanFrom pos a ++ scanFrom (pos + a.length) b := by
  induction a using scan_induction generalizing pos with
  | nil => rw [scanFrom_nil, List.nil_append, List.nil_append, List.length_nil, Nat.add_zero]
  | blank c rest hc ih =>
    rw [List.count_cons_of_ne (ne_quote_of_isBlank hc)] at hquotes
    rw [List.cons_append, scanFrom_blank _ _ hc, scanFrom_blank _ _ hc, ih _ hquotes,
      List.length_cons, Nat.add_right_comm, Nat.add_assoc]
  | mark c l rest hl ih =>
    rw [List.count_cons_of_ne (ne_quote_of_ofMark? hl)] at hquotes
    rw [List.cons_append, scanFrom_mark _ _ hl, scanFrom_mark _ _ hl, ih _ hquotes,
      List.length_cons, Nat.add_right_comm, Nat.add_assoc, List.cons_append]
  | phrase p rest hp ih =>
    have hcount : ('"' :: (p ++ '"' :: rest)).count '"' = rest.count '"' + 2 := by
      rw [List.count_cons_self, List.count_append, List.count_cons_self,
        List.count_eq_zero_of_not_mem hp]
      omega
    have hlength : pos + p.length + 2 + rest.length
        = pos + ('"' :: (p ++ '"' :: rest)).length := by
      simp only [List.length_cons, List.length_append]
      omega
    -- the two quotes of a phrase do not change whether the others are in pairs
    rw [hcount, Nat.add_mod_right] at hquotes
    rw [List.cons_append, List.append_assoc, List.cons_append, scanFrom_phrase _ _ hp,
      scanFrom_phrase _ _ hp, ih _ hquotes, hlength, List.cons_append]
  | looseQuote rest hq ih =>
    have hodd : ('"' :: rest).count '"' % 2 = 1 := by
      rw [List.count_cons_self, List.count_eq_zero_of_not_mem hq]
    -- the quotes are not in pairs, so the second text must hold none for the quote to stay alone
    have hbq : '"' ∉ b := by
      rcases hquotes with h | h
      · omega
      · exact h
    have hboth : '"' ∉ rest ++ b := by
      rw [List.mem_append, not_or]
      exact ⟨hq, hbq⟩
    rw [List.cons_append, scanFrom_looseQuote _ _ hboth, scanFrom_looseQuote _ _ hq,
      ih _ (Or.inr hbq), List.length_cons, Nat.add_right_comm, Nat.add_assoc, List.cons_append]
  | word w rest hne hw hrest ih =>
    have hwq : '"' ∉ w := fun h => (isWordPart_iff.mp (hw _ h)).2.1 rfl
    rw [List.count_append, List.count_eq_zero_of_not_mem hwq, Nat.zero_add] at hquotes
    rw [List.append_assoc, scanFrom_word _ _ hne hw (hrest.append hb), scanFrom_word _ _ hne hw hrest,
      ih _ hquotes, List.length_append, Nat.add_assoc, List.cons_append]

/-- **Two texts are read one after the other** when the second begins apart and no phrase can cross
the seam: either the quotes of the first are in pairs, or the second holds no quote. -/
theorem lexemes_append {a b : Text} (hb : BeginsApart b)
    (hquotes : a.count '"' % 2 = 0 ∨ '"' ∉ b) : lexemes (a ++ b) = lexemes a ++ lexemes b := by
  rw [← map_lexeme_scanFrom 0 (a ++ b), scanFrom_append 0 hb hquotes, tokensOf, List.filterMap_append,
    List.map_append]
  exact congrArg₂ _ (map_lexeme_scanFrom 0 a) (map_lexeme_scanFrom _ b)

/-! ## Where words and phrases come from -/

/-- A word stands for an operator or for itself. -/
theorem ofWord_cases (w : Text) :
    Lexeme.ofWord w = .word w ∨ ∃ op, Lexeme.ofWord w = .operator op := by
  unfold Lexeme.ofWord
  cases Operator.ofWord? w with
  | none => exact Or.inl rfl
  | some op => exact Or.inr ⟨op, rfl⟩

/-- **Words and phrases are stretches of the text without quotes.** -/
theorem isInfix_of_mem_lexemes {t s : Text} (h : .word s ∈ lexemes t ∨ .quoted s ∈ lexemes t) :
    s <:+: t ∧ '"' ∉ s := by
  induction t using scan_induction with
  | nil => simp at h
  | blank c rest hc ih =>
    rw [lexemes_blank _ hc] at h
    exact ⟨List.infix_cons (ih h).1, (ih h).2⟩
  | mark c l rest hl ih =>
    rw [lexemes_mark _ hl] at h
    have hrest : .word s ∈ lexemes rest ∨ .quoted s ∈ lexemes rest := by
      rcases ofMark?_eq_some hl with ⟨-, rfl⟩ | ⟨-, rfl⟩ | ⟨-, rfl⟩ <;> simpa using h
    exact ⟨List.infix_cons (ih hrest).1, (ih hrest).2⟩
  | phrase p rest hp ih =>
    rw [lexemes_phrase _ hp] at h
    by_cases hs : s = p
    · rw [hs]
      exact ⟨⟨['"'], '"' :: rest, by simp⟩, hp⟩
    · have hrest : .word s ∈ lexemes rest ∨ .quoted s ∈ lexemes rest := by
        simpa [hs] using h
      have hsuffix : rest <:+ '"' :: (p ++ '"' :: rest) := ⟨'"' :: (p ++ ['"']), by simp⟩
      exact ⟨(ih hrest).1.trans hsuffix.isInfix, (ih hrest).2⟩
  | looseQuote rest hq ih =>
    rw [lexemes_looseQuote _ hq] at h
    exact ⟨List.infix_cons (ih h).1, (ih h).2⟩
  | word w rest hne hw hrest ih =>
    rw [lexemes_word _ hne hw hrest] at h
    by_cases hs : s = w
    · rw [hs]
      exact ⟨(List.prefix_append w rest).isInfix, fun hq => (isWordPart_iff.mp (hw _ hq)).2.1 rfl⟩
    · have hrest : .word s ∈ lexemes rest ∨ .quoted s ∈ lexemes rest := by
        rcases ofWord_cases w with hw | ⟨op, hw⟩ <;> simpa [hw, hs] using h
      exact ⟨(ih hrest).1.trans (List.suffix_append w rest).isInfix, (ih hrest).2⟩

end CandidateSearch

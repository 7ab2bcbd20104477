import CandidateSearch.Proofs.Placement
import CandidateSearch.Proofs.Terms

/-!
# Operators that are recorded

Operators are recorded by a search of its own, which looks for words of ASCII anywhere in a content,
while the tokenizer cuts the content at blanks, quotes and marks of Unicode.  All characters at which
the tokenizer cuts are outside of words of ASCII too, so the search finds in a content what it finds
in its tokens, one after the other.

* `mem_scanOperators_iff`: which operators the search finds;
* `scanOperators_eq_flatMap_lexemes`: the search goes through the lexemes of a content;
* `contributes_scanOperators`: what each lexeme contributes;
* `scanOperators_factors`: the operators that are recorded, token by token.
-/

namespace CandidateSearch

/-! ## Operators that stand alone -/

/-- The operator stands alone in a text, in any mix of capitals and small letters: no word character
touches it. -/
def Operator.StandsAlone (op : Operator) (t : Text) : Prop :=
  ∃ front s rest, t = front ++ (s ++ rest) ∧ s.map Char.toUpper = op.name ∧
    (∀ c ∈ front.getLast?, isWordCharacter c = false) ∧
    ∀ c ∈ rest.head?, isWordCharacter c = false

/-- **Induction along the separators of words.** -/
theorem separator_induction {motive : Text → Prop}
    (word : ∀ w, (∀ c ∈ w, isWordCharacter c = true) → motive w)
    (separator : ∀ w c rest, (∀ d ∈ w, isWordCharacter d = true) → isWordCharacter c = false →
      motive rest → motive (w ++ c :: rest))
    (t : Text) : motive t := by
  have hword : ∀ c ∈ t.takeWhile isWordCharacter, isWordCharacter c = true :=
    fun c hc => List.mem_takeWhile_imp hc
  cases hrest : t.dropWhile isWordCharacter with
  | nil => exact word t (List.dropWhile_eq_nil_iff.mp hrest)
  | cons c rest =>
    have ht : t.takeWhile isWordCharacter ++ c :: rest = t := by
      rw [← hrest, List.takeWhile_append_dropWhile]
    have hc : isWordCharacter c = false := by
      have hhead := List.head?_dropWhile_not isWordCharacter t
      rw [hrest] at hhead
      simpa using hhead
    have hlen : rest.length < t.length := by
      rw [← ht, List.length_append, List.length_cons]
      omega
    rw [← ht]
    exact separator _ c rest hword hc (separator_induction word separator rest)
  termination_by t.length

/-- A letter of an operator's name, in either case, is a word character. -/
theorem isWordCharacter_of_toUpper {c : Char} (h : c.toUpper ∈ operatorLetters) :
    isWordCharacter c = true := by
  by_cases hsmall : 'a'.val ≤ c.val ∧ c.val ≤ 'z'.val
  · rw [isWordCharacter_eq, decide_eq_true hsmall.1, decide_eq_true hsmall.2, Bool.and_true,
      Bool.or_true, Bool.true_or, Bool.true_or]
  · have hself : c.toUpper = c := dif_neg hsmall
    rw [hself] at h
    have hall : ∀ d ∈ operatorLetters, isWordCharacter d = true :=
      Text.forall_mem_of_all (by decide)
    exact hall c h

/-- A text of word characters holds at most one operator, as a whole. -/
theorem scanOperators_of_word {w : Text} (h : ∀ c ∈ w, isWordCharacter c = true) :
    scanOperators w = (Operator.ofName? (w.map Char.toUpper)).toList := by
  have hstretch : wordStretches w = [w] :=
    List.splitOnP_eq_singleton fun c hc => by simp [h c hc]
  rw [scanOperators, hstretch]
  cases hname : Operator.ofName? (w.map Char.toUpper) with
  | none => exact List.filterMap_cons_none hname
  | some op => exact List.filterMap_cons_some hname

/-- The name of an operator, in any mix of capitals and small letters, holds that operator alone. -/
theorem scanOperators_of_map_toUpper {w : Text} {op : Operator}
    (h : w.map Char.toUpper = op.name) : scanOperators w = [op] := by
  have hword : ∀ c ∈ w, isWordCharacter c = true := by
    intro c hc
    refine isWordCharacter_of_toUpper (mem_operatorLetters op _ ?_)
    rw [← h]
    exact List.mem_map_of_mem hc
  rw [scanOperators_of_word hword, h, Operator.ofName?_name]
  rfl

/-- A text that begins outside of words is searched apart from what stands in front of it. -/
theorem scanOperators_append (a : Text) {b : Text}
    (h : ∀ c ∈ b.head?, isWordCharacter c = false) :
    scanOperators (a ++ b) = scanOperators a ++ scanOperators b := by
  cases b with
  | nil => exact (congrArg scanOperators (List.append_nil a)).trans (List.append_nil _).symm
  | cons c b => rw [scanOperators_append_cons a b (h c rfl), scanOperators_cons b (h c rfl)]

/-- A text is searched apart from what stands in front of it and ends outside of words. -/
theorem scanOperators_append_of_getLast? {a : Text} (b : Text)
    (h : ∀ c ∈ a.getLast?, isWordCharacter c = false) :
    scanOperators (a ++ b) = scanOperators a ++ scanOperators b := by
  rcases List.eq_nil_or_concat' a with rfl | ⟨a, c, rfl⟩
  · rfl
  · have hc : isWordCharacter c = false := h c (by rw [List.getLast?_concat]; rfl)
    rw [List.append_assoc, List.singleton_append, scanOperators_append_cons a b hc,
      scanOperators_append_cons a [] hc]
    exact congrArg (· ++ _) (List.append_nil _).symm

/-- **The search finds the operators that stand alone.** -/
theorem mem_scanOperators_iff {op : Operator} {t : Text} :
    op ∈ scanOperators t ↔ op.StandsAlone t := by
  constructor
  · have hfound : ∀ w, (∀ c ∈ w, isWordCharacter c = true) → op ∈ scanOperators w →
        w.map Char.toUpper = op.name := by
      intro w hw hop
      rw [scanOperators_of_word hw, Option.mem_toList] at hop
      exact ofName?_eq_some_iff.mp hop
    induction t using separator_induction with
    | word w hw =>
      intro hop
      exact ⟨[], w, [], by simp, hfound w hw hop, by simp, by simp⟩
    | separator w c rest hw hc ih =>
      intro hop
      rw [scanOperators_append_cons w rest hc, List.mem_append] at hop
      rcases hop with hop | hop
      · exact ⟨[], w, c :: rest, rfl, hfound w hw hop, by simp, by simpa using hc⟩
      · obtain ⟨front, s, behind, rfl, hs, hfront, hbehind⟩ := ih hop
        refine ⟨w ++ c :: front, s, behind, by simp, hs, fun d hd => ?_, hbehind⟩
        rw [List.getLast?_append, List.getLast?_cons, Option.some_or, Option.mem_some_iff] at hd
        cases hlast : front.getLast? with
        | none =>
          rw [hlast] at hd
          rwa [← hd]
        | some e =>
          rw [hlast] at hd
          rw [← hd]
          exact hfront e hlast
  · rintro ⟨front, s, rest, rfl, hs, hfront, hrest⟩
    rw [scanOperators_append_of_getLast? _ hfront, scanOperators_append s hrest,
      scanOperators_of_map_toUpper hs]
    simp

/-! ## Through the lexemes of a content -/

/-- What is no part of a word of the tokenizer is no word character. -/
theorem isWordCharacter_of_isWordPart {c : Char} (h : isWordPart c = false) :
    isWordCharacter c = false := by
  rcases character_cases c with hb | ⟨l, hl⟩ | rfl | hw
  · exact isWordCharacter_of_isBlank hb
  · rcases ofMark?_eq_some hl with ⟨rfl, -⟩ | ⟨rfl, -⟩ | ⟨rfl, -⟩ <;> decide
  · decide
  · rw [hw] at h
    cases h

/-- A mark holds no operator. -/
theorem scanOperators_text_of_ofMark? {c : Char} {l : Lexeme} (h : Lexeme.ofMark? c = some l) :
    scanOperators l.text = [] := by
  rcases ofMark?_eq_some h with ⟨-, rfl⟩ | ⟨-, rfl⟩ | ⟨-, rfl⟩ <;> decide +kernel

/-- An operator holds itself alone. -/
theorem scanOperators_name (op : Operator) : scanOperators op.name = [op] :=
  scanOperators_of_map_toUpper (by cases op <;> rfl)

/-- A word holds the same operators as the lexeme that it stands for. -/
theorem scanOperators_text_ofWord (w : Text) :
    scanOperators (Lexeme.ofWord w).text = scanOperators w := by
  unfold Lexeme.ofWord
  cases hword : Operator.ofWord? w with
  | none => rfl
  | some op =>
    exact (scanOperators_name op).trans
      (scanOperators_of_map_toUpper (ofWord?_eq_some_iff.mp hword)).symm

/-- **The search goes through the lexemes of a content**, one after the other. -/
theorem scanOperators_eq_flatMap_lexemes (t : Text) :
    scanOperators t = (lexemes t).flatMap fun l => scanOperators l.text := by
  induction t using scan_induction with
  | nil =>
    rw [lexemes_nil]
    rfl
  | blank c rest hb ih =>
    rw [lexemes_blank _ hb, scanOperators_cons _ (isWordCharacter_of_isBlank hb), ih]
  | mark c l rest hl ih =>
    have hc : isWordCharacter c = false :=
      isWordCharacter_of_isWordPart (isWordPart_of_ofMark? hl)
    rw [lexemes_mark _ hl, scanOperators_cons _ hc, List.flatMap_cons,
      scanOperators_text_of_ofMark? hl, ih, List.nil_append]
  | phrase p rest hp ih =>
    rw [lexemes_phrase _ hp, scanOperators_cons _ (by decide),
      scanOperators_append_cons p rest (by decide), List.flatMap_cons, ih]
    rfl
  | looseQuote rest hq ih =>
    rw [lexemes_looseQuote _ hq, scanOperators_cons _ (by decide), ih]
  | word w rest hne hw hrest ih =>
    have hapart : ∀ c ∈ rest.head?, isWordCharacter c = false :=
      fun c hc => isWordCharacter_of_isWordPart (hrest c hc)
    rw [lexemes_word _ hne hw hrest, scanOperators_append w hapart, List.flatMap_cons,
      scanOperators_text_ofWord, ih]

/-! ## What each lexeme contributes -/

/-- What a lexeme contributes to the operators that are recorded. -/
inductive Lexeme.Contributes : Lexeme → List Operator → Prop where
  /-- An operator contributes itself. -/
  | operator (op : Operator) : Contributes (.operator op) [op]
  /-- A mark contributes nothing. -/
  | mark {c : Char} {l : Lexeme} : Lexeme.ofMark? c = some l → Contributes l []
  /-- A phrase contributes operators that stand alone inside it. -/
  | phrase {p : Text} {ops : List Operator} : (∀ op ∈ ops, op.StandsAlone p) →
      Contributes (.quoted p) ops
  /-- A word contributes operators that stand alone inside it, and the word is larger. -/
  | word {w : Text} {ops : List Operator} :
      (∀ op ∈ ops, op.StandsAlone w ∧ op.name.length < w.length) → Contributes (.word w) ops

/-- An operator that stands alone in a word which does not name it is shorter than the word. -/
theorem Operator.StandsAlone.length_lt {op : Operator} {w : Text} (h : op.StandsAlone w)
    (hname : w.map Char.toUpper ≠ op.name) : op.name.length < w.length := by
  obtain ⟨front, s, rest, rfl, hs, -, -⟩ := h
  rw [← hs, List.length_map, List.length_append, List.length_append]
  by_contra hlength
  have hfront : front = [] := List.eq_nil_of_length_eq_zero (by omega)
  have hrest : rest = [] := List.eq_nil_of_length_eq_zero (by omega)
  rw [hfront, hrest, List.nil_append, List.append_nil] at hname
  exact hname hs

/-- **What is found in a lexeme that is written in some text.** -/
theorem contributes_scanOperators {l : Lexeme} {s : Text} (h : Written l s) :
    l.Contributes (scanOperators l.text) := by
  cases h with
  | word _ hname =>
    refine .word fun op hop => ?_
    have halone := mem_scanOperators_iff.mp hop
    exact ⟨halone, halone.length_lt (hname op)⟩
  | operator =>
    rw [Lexeme.text, scanOperators_name]
    exact .operator _
  | phrase => exact .phrase fun op hop => mem_scanOperators_iff.mp hop
  | mark hmark =>
    rw [scanOperators_text_of_ofMark? hmark]
    exact .mark hmark

/-- The operator that a lexeme is. -/
def Lexeme.operator? : Lexeme → Option Operator
  | .operator op => some op
  | _ => none

/-- The operators among some lexemes are found in them, in order. -/
theorem operators_sublist (ls : List Lexeme) :
    (ls.filterMap Lexeme.operator?).Sublist (ls.flatMap fun l => scanOperators l.text) := by
  induction ls with
  | nil => exact .slnil
  | cons l ls ih =>
    rw [List.flatMap_cons]
    cases l with
    | operator op =>
      rw [Lexeme.text, scanOperators_name, List.singleton_append]
      exact ih.cons_cons op
    | _ => exact ih.trans (List.sublist_append_right _ _)

/-! ## Operators that negate -/

/-- Only a NOT makes a reading negate what follows. -/
theorem NegationState.negates_of_negates_step {s : NegationState} {l : Lexeme}
    (h : (s.step l).negates = true) : s.negates = true ∨ l = .operator .not := by
  rw [negates, Bool.or_eq_true] at h ⊢
  cases l with
  | operator op =>
    rcases h with hpending | hgroup
    · exact Or.inr (congrArg Lexeme.operator (eq_of_beq hpending))
    · exact Or.inl (Or.inr hgroup)
  | opening =>
    rcases h with hpending | hgroup
    · cases hpending
    · by_cases hs : s.pending = true
      · exact Or.inl (Or.inl hs)
      · -- without a NOT in front, the group is negated only inside another
        exact Or.inl (Or.inr (by simpa [step, enter, hs] using hgroup))
  | closing =>
    rcases h with hpending | hgroup
    · cases hpending
    · exact Or.inl (Or.inr (Option.isSome_of_isSome_filter _ _ hgroup))
  | _ =>
    rcases h with hpending | hgroup
    · cases hpending
    · exact Or.inl (Or.inr hgroup)

/-- **A term is negated behind a NOT only.** -/
theorem not_mem_of_negated {s : NegationState} {ls : List Lexeme} {m : MarkedTerm}
    (hm : m ∈ markLexemes s ls) (hnegated : m.negated = true) :
    s.negates = true ∨ .operator .not ∈ ls := by
  induction ls generalizing s with
  | nil => cases hm
  | cons l ls ih =>
    have hrest : m ∈ markLexemes (s.step l) ls → s.negates = true ∨ .operator .not ∈ l :: ls := by
      intro hlater
      rcases ih hlater with hstate | hmem
      · refine (NegationState.negates_of_negates_step hstate).imp_right fun hl => ?_
        rw [hl]
        exact List.mem_cons_self
      · exact Or.inr (List.mem_cons_of_mem l hmem)
    cases hterm : l.term? with
    | none =>
      rw [markLexemes_cons_none ls hterm] at hm
      exact hrest hm
    | some text =>
      rw [markLexemes_cons_some ls hterm, List.mem_cons] at hm
      rcases hm with rfl | hm
      · exact Or.inl hnegated
      · exact hrest hm

/-! ## The operators of a content -/

/-- **Recording operators goes through the tokens.**  The operators that are recorded for a content
are those found in its tokens, one after the other.  An operator contributes itself and a mark
nothing, so every operator among the tokens is recorded, in order, and a negated term has a NOT that
is recorded; whatever else is recorded stands alone inside a phrase or a larger word. -/
theorem scanOperators_factors (t : Text) :
    scanOperators t = (tokenize t).flatMap (fun tok => scanOperators tok.lexeme.text) ∧
      (∀ tok ∈ tokenize t, tok.lexeme.Contributes (scanOperators tok.lexeme.text)) ∧
      ((tokenize t).filterMap fun tok => tok.lexeme.operator?).Sublist (scanOperators t) ∧
      ∀ m ∈ markNegation (tokenize t), m.negated = true → .not ∈ scanOperators t := by
  have hoperators : ((lexemes t).filterMap Lexeme.operator?).Sublist (scanOperators t) := by
    rw [scanOperators_eq_flatMap_lexemes]
    exact operators_sublist _
  refine ⟨?_, ?_, ?_, ?_⟩
  · rw [scanOperators_eq_flatMap_lexemes, lexemes, List.flatMap_map]
  · intro tok htok
    exact contributes_scanOperators ((isCutting_tokenize t).standsIn tok htok).written
  · rw [lexemes, List.filterMap_map] at hoperators
    exact hoperators
  · intro m hm hnegated
    rw [markNegation, markNegationFrom_eq_markLexemes] at hm
    rcases not_mem_of_negated hm hnegated with hstart | hnot
    · cases hstart
    · exact hoperators.subset (List.mem_filterMap.mpr ⟨_, hnot, rfl⟩)

/-- Operators in a phrase, in a word with a hyphen and one with a letter beyond ASCII, and a NOT in
front of a group. -/
def mixedContent : Text := "\"a Or b\" x-and-y \u00e9not_ \u00e9OR NoT (z)".toList

/-- The operators of the mixed content: from the phrase, from the two words, and the one that
negates. -/
theorem scanOperators_factors_mixedContent :
    scanOperators mixedContent = [.or, .and, .or, .not] ∧
      (⟨['z'], true⟩ ∈ markNegation (tokenize mixedContent) ∧ .not ∈ scanOperators mixedContent) ∧
      ⟨.word "x-and-y".toList, 9⟩ ∈ tokenize mixedContent ∧
      (Lexeme.word "x-and-y".toList).Contributes [.and] := by
  obtain ⟨-, hcontributes, -, hnegated⟩ := scanOperators_factors mixedContent
  have hz : ⟨['z'], true⟩ ∈ markNegation (tokenize mixedContent) := by decide +kernel
  have hword : ⟨.word "x-and-y".toList, 9⟩ ∈ tokenize mixedContent := by decide +kernel
  have hand : scanOperators "x-and-y".toList = [.and] := by decide +kernel
  have hcontribution := hcontributes _ hword
  rw [Lexeme.text, hand] at hcontribution
  exact ⟨by decide +kernel, ⟨hz, hnegated _ hz rfl⟩, hword, hcontribution⟩

end CandidateSearch

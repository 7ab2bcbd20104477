import CandidateSearch.Text.Basic
import Mathlib.Data.List.DropRight

/-!
# Laws of texts

What trimming keeps and what the plain searches find, with the laws of duplicate-free lists that the
extraction of terms rests on.

* `trim_trim`, `trim_isInfix`, `trim_eq_nil_iff`: trimming is idempotent, gives a stretch of the text,
  and leaves nothing exactly of a blank text;
* `trim_append`: trimming keeps the end of a text that begins and ends in characters which are not
  blank;
* `after?_eq_some`, `after?_eq_none_iff`: what a search for one character says about the text;
* `lengthBefore_spec`: where the count of the characters before one with a property ends;
* `between_add_length`: a stretch is a front of what follows its start;
* `nodup_eraseDups`, `eraseDups_of_nodup`, `eraseDups_filter`: removing duplicates.
-/

namespace CandidateSearch

namespace Text

/-- A property of every character of a text, by evaluation. -/
theorem forall_mem_of_all {p : Char → Prop} [DecidablePred p] {t : Text}
    (h : t.all (fun c => decide (p c)) = true) : ∀ c ∈ t, p c := by
  intro c hc
  exact of_decide_eq_true (List.all_eq_true.mp h c hc)

/-! ## Trimming -/

/-- Trimming the front leaves a text that does not begin with a blank. -/
theorem not_isBlank_head_trimStart {t rest : Text} {c : Char} (h : t.trimStart = c :: rest) :
    isBlank c = false := by
  have hhead := List.head?_dropWhile_not isBlank t
  rw [trimStart] at h
  rw [h] at hhead
  simpa using hhead

/-- A text that does not begin with a blank stays as it is when its front is trimmed. -/
theorem trimStart_cons {c : Char} (rest : Text) (h : isBlank c = false) :
    trimStart (c :: rest) = c :: rest := by
  rw [trimStart, List.dropWhile_cons_of_neg (by simp [h])]

/-- Blanks at the front are lost. -/
theorem trimStart_cons_blank {c : Char} (rest : Text) (h : isBlank c = true) :
    trimStart (c :: rest) = trimStart rest := by
  rw [trimStart, List.dropWhile_cons_of_pos h, trimStart]

/-- Trimming the front of a text does not reach beyond a character that is not blank. -/
theorem trimStart_append_cons (t rest : Text) {c : Char} (h : isBlank c = false) :
    trimStart (t ++ c :: rest) = trimStart t ++ c :: rest := by
  induction t with
  | nil => exact trimStart_cons rest h
  | cons d t ih =>
    by_cases hd : isBlank d = true
    · rw [List.cons_append, trimStart_cons_blank _ hd, trimStart_cons_blank _ hd, ih]
    · rw [List.cons_append, trimStart_cons _ (by simpa using hd),
        trimStart_cons _ (by simpa using hd), List.cons_append]

/-- Trimming the end is dropping from the right. -/
theorem trimEnd_eq_rdropWhile (t : Text) : t.trimEnd = t.rdropWhile isBlank := rfl

/-- What is left of a text after trimming its end is a beginning of it. -/
theorem trimEnd_isPrefix (t : Text) : t.trimEnd <+: t := List.rdropWhile_prefix isBlank t

/-- Trimming gives a stretch of the text. -/
theorem trim_isInfix (t : Text) : t.trim <:+: t :=
  (trimEnd_isPrefix _).isInfix.trans (List.dropWhile_suffix isBlank).isInfix

/-- Trimming leaves nothing exactly when every character is blank. -/
theorem trim_eq_nil_iff {t : Text} : t.trim = [] ↔ ∀ c ∈ t, isBlank c = true := by
  rw [trim, trimEnd_eq_rdropWhile, List.rdropWhile_eq_nil_iff]
  constructor
  · intro h c hc
    cases hstart : t.trimStart with
    | nil => exact List.dropWhile_eq_nil_iff.mp hstart c hc
    | cons d rest =>
      have hd : isBlank d = true := h d (by rw [hstart]; exact List.mem_cons_self)
      rw [not_isBlank_head_trimStart hstart] at hd
      exact absurd hd (by decide)
  · intro h c hc
    exact h c ((List.dropWhile_suffix isBlank).subset hc)

/-- Trimming keeps every character that is not blank. -/
theorem mem_trim {c : Char} {t : Text} (hc : isBlank c = false) (h : c ∈ t) : c ∈ t.trim := by
  have hkeep : ∀ s : Text, c ∈ s → c ∈ s.dropWhile isBlank := by
    intro s hs
    rw [← List.takeWhile_append_dropWhile (p := isBlank) (l := s), List.mem_append] at hs
    refine hs.resolve_left fun hfront => ?_
    rw [List.mem_takeWhile_imp hfront] at hc
    cases hc
  rw [trim, trimEnd, List.mem_reverse]
  exact hkeep _ (List.mem_reverse.mpr (hkeep t h))

/-- A beginning of a blank text is blank. -/
theorem trim_eq_nil_of_append {a b : Text} (h : trim (a ++ b) = []) : a.trim = [] := by
  rw [trim_eq_nil_iff] at h ⊢
  exact fun c hc => h c (List.mem_append_left b hc)

/-- The front of a trimmed text is trimmed. -/
theorem trimStart_trim (t : Text) : t.trim.trimStart = t.trim := by
  cases htrim : t.trim with
  | nil => rfl
  | cons c rest =>
    obtain ⟨beyond, hbeyond⟩ := trimEnd_isPrefix t.trimStart
    have hstart : t.trimStart = c :: (rest ++ beyond) := by
      rw [← hbeyond, ← List.cons_append, ← htrim, trim]
    exact trimStart_cons rest (not_isBlank_head_trimStart hstart)

/-- Trimming twice is trimming once. -/
theorem trim_trim (t : Text) : t.trim.trim = t.trim := by
  calc t.trim.trim = t.trim.trimEnd := by rw [trim, trimStart_trim]
    _ = t.trim := List.rdropWhile_idempotent isBlank t.trimStart

/-- Trimming keeps a character at the end that is not blank. -/
theorem trimEnd_append_singleton (t : Text) {c : Char} (h : isBlank c = false) :
    trimEnd (t ++ [c]) = t ++ [c] := by
  rw [trimEnd_eq_rdropWhile, List.rdropWhile_concat_neg _ _ _ (by simp [h])]

/-- Trimming drops a blank at the end. -/
theorem trimEnd_append_blank (t : Text) {c : Char} (h : isBlank c = true) :
    trimEnd (t ++ [c]) = trimEnd t := by
  rw [trimEnd_eq_rdropWhile, List.rdropWhile_concat_pos _ _ _ h, trimEnd_eq_rdropWhile]

/-- Trimming keeps the end of a text that begins and ends in characters which are not blank. -/
theorem trim_append (u : Text) {l : Text} (hne : l ≠ [])
    (hhead : ∀ c ∈ l.head?, isBlank c = false) (hlast : ∀ c ∈ l.getLast?, isBlank c = false) :
    trim (u ++ l) = trimStart u ++ l := by
  have hstart : trimStart (u ++ l) = trimStart u ++ l := by
    obtain ⟨c, t, rfl⟩ := List.exists_cons_of_ne_nil hne
    exact trimStart_append_cons u t (hhead c rfl)
  obtain ⟨t, d, rfl⟩ := (List.eq_nil_or_concat' l).resolve_left hne
  have hd : isBlank d = false := hlast d (by rw [List.getLast?_concat]; rfl)
  rw [trim, hstart, ← List.append_assoc]
  exact trimEnd_append_singleton _ hd

/-! ## Searching -/

/-- A text occurs at the end of every text that ends in it. -/
theorem occursIn_append_self (w part : Text) : occursIn part (w ++ part) = true := by
  induction w with
  | nil =>
    rw [List.nil_append]
    cases part with
    | nil => rfl
    | cons p part =>
      rw [occursIn, Bool.or_eq_true]
      left
      exact List.isPrefixOf_iff_prefix.mpr (List.prefix_refl _)
  | cons c w ih => rw [List.cons_append, occursIn, ih, Bool.or_true]

/-- A search fails exactly when the character does not occur. -/
theorem after?_eq_none_iff {c : Char} {t : Text} : after? c t = none ↔ c ∉ t := by
  induction t with
  | nil => simp [after?]
  | cons d rest ih =>
    rw [after?]
    by_cases h : d = c
    · simp [h]
    · rw [if_neg (by simp [h]), ih, List.mem_cons, not_or]
      exact ⟨fun hr => ⟨Ne.symm h, hr⟩, fun hr => hr.2⟩

/-- A search passes over a stretch without the character. -/
theorem after?_append_cons {c : Char} {before : Text} (rest : Text) (h : c ∉ before) :
    after? c (before ++ c :: rest) = some rest := by
  induction before with
  | nil => simp [after?]
  | cons d before ih =>
    rw [List.mem_cons, not_or] at h
    rw [List.cons_append, after?, if_neg (by simp [Ne.symm h.1]), ih h.2]

/-- A search that succeeds splits the text at the first occurrence. -/
theorem after?_eq_some {c : Char} {t rest : Text} (h : after? c t = some rest) :
    ∃ before, c ∉ before ∧ t = before ++ c :: rest := by
  induction t with
  | nil => simp [after?] at h
  | cons d r ih =>
    rw [after?] at h
    by_cases hd : d = c
    · rw [if_pos (by simp [hd])] at h
      exact ⟨[], by simp, by simp [hd, Option.some.inj h]⟩
    · rw [if_neg (by simp [hd])] at h
      obtain ⟨before, hbefore, rfl⟩ := ih h
      exact ⟨d :: before, by simp [Ne.symm hd, hbefore], rfl⟩

/-- A text is split at the last occurrence of each of its characters. -/
theorem exists_append_cons_of_mem {c : Char} {t : Text} (h : c ∈ t) :
    ∃ front rest, t = front ++ c :: rest ∧ c ∉ rest := by
  obtain ⟨rest, front, ht, hrest⟩ := List.eq_append_cons_of_mem (List.mem_reverse.mpr h)
  refine ⟨front.reverse, rest.reverse, ?_, by rwa [List.mem_reverse]⟩
  rw [← List.reverse_reverse t, ht]
  simp

/-- A stretch ends at the latest at a character that it may not hold. -/
theorem takeWhile_append_cons_of_neg {p : Char → Bool} {c : Char} (t rest : Text)
    (h : p c = false) : (t ++ c :: rest).takeWhile p = t.takeWhile p := by
  rw [List.takeWhile_append]
  split_ifs with hall
  · rw [List.takeWhile_cons_of_neg (by simp [h]), List.append_nil,
      (List.takeWhile_prefix p).eq_of_length hall]
  · rfl

/-- The stretch before the first occurrence of a character. -/
theorem takeWhile_ne_append_cons {c : Char} {before : Text} (rest : Text) (h : c ∉ before) :
    (before ++ c :: rest).takeWhile (· != c) = before := by
  have hall : ∀ d ∈ before, (d != c) = true := by
    intro d hd
    have hne : d ≠ c := by rintro rfl; exact h hd
    simpa using hne
  rw [List.takeWhile_append_of_pos hall, List.takeWhile_cons_of_neg (by simp), List.append_nil]

/-- A text splits in one way at the first occurrence of a character. -/
theorem append_cons_inj {c : Char} {a b x y : Text} (ha : c ∉ a) (hb : c ∉ b)
    (h : a ++ c :: x = b ++ c :: y) : a = b ∧ x = y := by
  have htake := congrArg (List.takeWhile (· != c)) h
  rw [takeWhile_ne_append_cons x ha, takeWhile_ne_append_cons y hb] at htake
  rw [htake, List.append_cancel_left_eq, List.cons.injEq] at h
  exact ⟨htake, h.2⟩

/-- **What is counted before the first character with a property**: none of the characters has it,
and the one behind them has, unless they are the whole text. -/
theorem lengthBefore_spec (p : Char → Bool) (t : Text) :
    (∀ c ∈ t.take (t.lengthBefore p), p c = false) ∧
      (t.lengthBefore p = t.length ∨ ∃ c, t[t.lengthBefore p]? = some c ∧ p c = true) := by
  have htake : t.take (t.lengthBefore p) = t.takeWhile (!p ·) :=
    (List.prefix_iff_eq_take.mp (List.takeWhile_prefix _)).symm
  have hdrop : t.drop (t.lengthBefore p) = t.dropWhile (!p ·) := by
    have hsplit := List.take_append_drop (t.lengthBefore p) t
    rw [htake] at hsplit
    exact List.append_cancel_left (hsplit.trans List.takeWhile_append_dropWhile.symm)
  constructor
  · intro c hc
    rw [htake] at hc
    simpa using List.mem_takeWhile_imp hc
  · cases hrest : t.drop (t.lengthBefore p) with
    | nil =>
      rw [List.drop_eq_nil_iff] at hrest
      exact Or.inl (Nat.le_antisymm (List.takeWhile_prefix _).length_le hrest)
    | cons c rest =>
      refine Or.inr ⟨c, by rw [← List.head?_drop, hrest, List.head?_cons], ?_⟩
      have hhead := List.head?_dropWhile_not (!p ·) t
      rw [← hdrop, hrest] at hhead
      simpa using hhead

/-! ## Stretches -/

/-- The stretch of a text from a position up to another. -/
def between (t : Text) (start stop : Nat) : Text := (t.take stop).drop start

/-- A stretch is a front of what follows its start. -/
theorem between_add_length {t part : Text} {start : Nat} (h : part <+: t.drop start) :
    t.between start (start + part.length) = part := by
  obtain ⟨rest, hrest⟩ := h
  rw [between, List.drop_take, ← hrest, Nat.add_sub_cancel_left, List.take_left]

/-- A stretch holds the characters of the text. -/
theorem getElem?_between (t : Text) {start stop i : Nat} (hstart : start ≤ i) (hstop : i < stop) :
    (t.between start stop)[i - start]? = t[i]? := by
  rw [between, List.getElem?_drop, Nat.add_sub_cancel' hstart, List.getElem?_take_of_lt hstop]

end Text

/-! ## Duplicates -/

/-- What is left without duplicates holds no duplicates. -/
theorem nodup_eraseDups {α : Type} [BEq α] [LawfulBEq α] (l : List α) : l.eraseDups.Nodup := by
  match l with
  | [] => simp
  | a :: l =>
    have hlen : (l.filter fun b => !b == a).length < (a :: l).length :=
      Nat.lt_succ_of_le (List.length_filter_le _ l)
    rw [List.eraseDups_cons, List.nodup_cons]
    exact ⟨by simp, nodup_eraseDups _⟩
  termination_by l.length
  decreasing_by exact hlen

/-- A list without duplicates stays as it is. -/
theorem eraseDups_of_nodup {α : Type} [BEq α] [LawfulBEq α] {l : List α} (h : l.Nodup) :
    l.eraseDups = l := by
  induction l with
  | nil => rfl
  | cons a l ih =>
    rw [List.nodup_cons] at h
    have hkeep : (l.filter fun b => !b == a) = l := by
      rw [List.filter_eq_self]
      intro b hb
      have hne : b ≠ a := by rintro rfl; exact h.1 hb
      simpa using hne
    rw [List.eraseDups_cons, hkeep, ih h.2]

/-- Duplicates are removed before or after some elements are left out. -/
theorem eraseDups_filter {α : Type} [BEq α] [LawfulBEq α] (p : α → Bool) (l : List α) :
    (l.filter p).eraseDups = l.eraseDups.filter p := by
  match l with
  | [] => simp
  | a :: l =>
    have hlen : (l.filter fun b => !b == a).length < (a :: l).length :=
      Nat.lt_succ_of_le (List.length_filter_le _ l)
    have hrest := eraseDups_filter p (l.filter fun b => !b == a)
    rw [List.eraseDups_cons]
    by_cases ha : p a = true
    · rw [List.filter_cons_of_pos ha, List.filter_cons_of_pos ha, List.eraseDups_cons,
        List.filter_comm, hrest]
    · -- the element is left out, so leaving out its duplicates changes nothing
      have hsame : (l.filter fun b => !b == a).filter p = l.filter p := by
        rw [List.filter_filter]
        refine List.filter_congr fun b _ => ?_
        by_cases hb : b = a
        · simp [hb, ha]
        · simp [hb]
      rw [List.filter_cons_of_neg ha, List.filter_cons_of_neg ha, ← hrest, hsame]
  termination_by l.length
  decreasing_by exact hlen

/-- Behind a first list, the elements of a second one are kept that are new. -/
theorem eraseDups_append_eq_filter {α : Type} [BEq α] [LawfulBEq α] (a b : List α) :
    (a ++ b).eraseDups = a.eraseDups ++ b.eraseDups.filter (!a.eraseDups.contains ·) := by
  have hnew : b.removeAll a = b.filter (!a.eraseDups.contains ·) := by
    refine List.filter_congr fun x _ => ?_
    rw [Bool.not_inj_iff, Bool.eq_iff_iff]
    simp [List.mem_eraseDups]
  rw [List.eraseDups_append, hnew, eraseDups_filter]

end CandidateSearch

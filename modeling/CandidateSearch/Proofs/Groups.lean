import CandidateSearch.Proofs.Lexemes
import CandidateSearch.Query.Group
import Mathlib.Data.List.Infix

/-!
# Reading groups

`splitGroup` is the search for a closing parenthesis with its outcome as two texts: what stands
inside the group and what follows it.  It advances by one closed phrase, one quote without a partner
or one other character at a time, and counts the nesting of parentheses on the way.

* `splitGroup_eq_some`: the two texts with the closing parenthesis between them are the whole;
* `quotes_of_splitGroup`: no phrase reaches from inside a group to what follows it;
* `splitGroup_append_of_quotes`: a closed group stays closed when a text is appended, unless a phrase
  could reach out of it;
* `splitGroup_append_nested`: a text without quotes that closes nothing from outside is passed over;
* `nesting_of_splitGroup_eq_none`: a group that is never closed is never balanced, if no phrase hides
  a closing parenthesis.
-/

namespace CandidateSearch

/-! ## Nesting -/

/-- What a character does to the nesting of parentheses. -/
def parenthesisWeight (c : Char) : Int := if c = '(' then 1 else if c = ')' then -1 else 0

/-- How many more parentheses a text opens than it closes. -/
def nesting : Text → Int
  | [] => 0
  | c :: t => parenthesisWeight c + nesting t

@[simp] theorem nesting_nil : nesting [] = 0 := rfl

@[simp] theorem nesting_cons (c : Char) (t : Text) :
    nesting (c :: t) = parenthesisWeight c + nesting t := rfl

@[simp] theorem nesting_append (a b : Text) : nesting (a ++ b) = nesting a + nesting b := by
  induction a with
  | nil => rw [List.nil_append, nesting_nil, Int.zero_add]
  | cons c a ih => rw [List.cons_append, nesting_cons, nesting_cons, ih, Int.add_assoc]

/-- The nesting is the difference of the two counts. -/
theorem nesting_eq_count (t : Text) : nesting t = (t.count '(' : Int) - t.count ')' := by
  induction t with
  | nil => rfl
  | cons c t ih =>
    rw [nesting_cons, ih, parenthesisWeight]
    by_cases h₁ : c = '('
    · simp [h₁]
      omega
    · by_cases h₂ : c = ')'
      · simp [h₂]
        omega
      · simp [h₁, h₂]

/-- A text without parentheses does not change the nesting. -/
theorem nesting_of_not_mem {t : Text} (h₁ : '(' ∉ t) (h₂ : ')' ∉ t) : nesting t = 0 := by
  rw [nesting_eq_count, List.count_eq_zero_of_not_mem h₁, List.count_eq_zero_of_not_mem h₂]
  rfl

/-- Every group that is opened is closed, and none is closed that was not opened. -/
def Balanced (t : Text) : Prop := nesting t = 0 ∧ ∀ p, p <+: t → 0 ≤ nesting p

instance (t : Text) : Decidable (Balanced t) :=
  decidable_of_iff (nesting t = 0 ∧ ∀ p ∈ t.inits, 0 ≤ nesting p)
    (by simp only [List.mem_inits, Balanced])

/-- A text in parentheses. -/
def inParentheses (x : Text) : Text := '(' :: (x ++ [')'])

theorem inParentheses_append (x rest : Text) :
    inParentheses x ++ rest = '(' :: (x ++ ')' :: rest) := by
  rw [inParentheses, List.cons_append, List.append_assoc, List.singleton_append]

/-! ## Steps of the search -/

/-- **Induction along the search.**  A text is empty, or begins with a closed phrase, a quote without
a partner, or another character. -/
theorem quote_induction {motive : Text → Prop} (nil : motive [])
    (plain : ∀ c rest, c ≠ '"' → motive rest → motive (c :: rest))
    (phrase : ∀ p rest, '"' ∉ p → motive rest → motive ('"' :: (p ++ '"' :: rest)))
    (looseQuote : ∀ rest, '"' ∉ rest → motive rest → motive ('"' :: rest))
    (t : Text) : motive t := by
  match t with
  | [] => exact nil
  | c :: rest =>
    by_cases hc : c = '"'
    · rw [hc]
      cases h : Text.after? '"' rest with
      | none =>
        exact looseQuote rest (Text.after?_eq_none_iff.mp h)
          (quote_induction nil plain phrase looseQuote rest)
      | some beyond =>
        have hlen := Text.length_of_after? h
        obtain ⟨p, hp, hrest⟩ := Text.after?_eq_some h
        rw [hrest]
        exact phrase p beyond hp (quote_induction nil plain phrase looseQuote beyond)
    · exact plain c rest hc (quote_induction nil plain phrase looseQuote rest)
  termination_by t.length
  decreasing_by all_goals (simp only [List.length_cons]; omega)

section Steps

variable (pos : Nat) (depth : Int) {c : Char} {p : Text} (rest : Text)

theorem closingFrom_nil : closingFrom pos depth [] = none := by
  rw [closingFrom]

/-- A character outside of quotes changes the nesting, or closes the group. -/
theorem closingFrom_cons (h : c ≠ '"') :
    closingFrom pos depth (c :: rest)
      = if c = ')' ∧ depth = 1 then some pos
        else closingFrom (pos + 1) (depth + parenthesisWeight c) rest := by
  rw [closingFrom, if_neg h, parenthesisWeight]
  by_cases hopen : c = '('
  · simp [hopen]
  · by_cases hclose : c = ')'
    · by_cases hdepth : depth = 1
      · simp [hclose, hdepth]
      · rw [if_neg hopen, if_pos hclose, if_neg (by omega), if_neg (by simp [hdepth]), if_neg hopen,
          if_pos hclose, Int.sub_eq_add_neg]
    · simp [hopen, hclose]

/-- A closed phrase is passed over. -/
theorem closingFrom_phrase (h : '"' ∉ p) :
    closingFrom pos depth ('"' :: (p ++ '"' :: rest))
      = closingFrom (pos + (p.length + 2)) depth rest := by
  rw [closingFrom, if_pos rfl]
  split
  · next hnone => rw [Text.after?_append_cons rest h] at hnone; cases hnone
  · next beyond hsome =>
    rw [Text.after?_append_cons rest h] at hsome
    cases hsome
    congr 1
    rw [List.length_append, List.length_cons]
    omega

/-- A quote without a partner is passed over. -/
theorem closingFrom_looseQuote (h : '"' ∉ rest) :
    closingFrom pos depth ('"' :: rest) = closingFrom (pos + 1) depth rest := by
  rw [closingFrom, if_pos rfl]
  split
  · rfl
  · next beyond hsome => rw [Text.after?_eq_none_iff.mpr h] at hsome; cases hsome

end Steps

/-- The position at which a text begins only moves what is found in it. -/
theorem closingFrom_add (k pos : Nat) (depth : Int) (t : Text) :
    closingFrom (k + pos) depth t = (closingFrom pos depth t).map (k + ·) := by
  induction t using quote_induction generalizing pos depth with
  | nil => rw [closingFrom_nil, closingFrom_nil, Option.map_none]
  | plain c rest hc ih =>
    rw [closingFrom_cons _ _ _ hc, closingFrom_cons _ _ _ hc, Nat.add_assoc]
    by_cases hlast : c = ')' ∧ depth = 1
    · rw [if_pos hlast, if_pos hlast, Option.map_some]
    · rw [if_neg hlast, if_neg hlast, ih]
  | phrase p rest hp ih =>
    rw [closingFrom_phrase _ _ _ hp, closingFrom_phrase _ _ _ hp, Nat.add_assoc, ih]
  | looseQuote rest hq ih =>
    rw [closingFrom_looseQuote _ _ _ hq, closingFrom_looseQuote _ _ _ hq, Nat.add_assoc, ih]

/-- A blank is neither a quote nor a parenthesis. -/
theorem plain_of_isBlank {c : Char} (h : isBlank c = true) : c ≠ '"' ∧ c ≠ '(' ∧ c ≠ ')' := by
  refine ⟨?_, ?_, ?_⟩ <;> (rintro rfl; exact absurd h (by decide))

/-- A character of a word is neither a quote nor a parenthesis. -/
theorem plain_of_isWordPart {c : Char} (h : isWordPart c = true) :
    c ≠ '"' ∧ c ≠ '(' ∧ c ≠ ')' := by
  obtain ⟨-, hquote, hopen, hclose, -⟩ := isWordPart_iff.mp h
  exact ⟨hquote, hopen, hclose⟩

/-- A text without quotes and parentheses is passed over. -/
theorem closingFrom_append_plain (pos : Nat) (depth : Int) {x : Text} (rest : Text)
    (hx : ∀ c ∈ x, c ≠ '"' ∧ c ≠ '(' ∧ c ≠ ')') :
    closingFrom pos depth (x ++ rest) = closingFrom (pos + x.length) depth rest := by
  induction x generalizing pos with
  | nil => rfl
  | cons c x ih =>
    obtain ⟨⟨hquote, hopen, hclose⟩, hx⟩ := List.forall_mem_cons.mp hx
    rw [List.cons_append, closingFrom_cons _ _ _ hquote, if_neg fun h => hclose h.1,
      parenthesisWeight, if_neg hopen, if_neg hclose, Int.add_zero, ih _ hx, List.length_cons,
      Nat.add_assoc, Nat.add_comm 1]

/-- The end of a group is looked for behind its opening parenthesis. -/
theorem groupEnd_of_drop {t u : Text} {start : Nat} (h : t.drop start = '(' :: u) :
    groupEnd t start = (closingFrom 0 1 u).map (start + 1 + ·) := by
  rw [groupEnd, h, closingFrom_cons _ _ _ (by decide), if_neg (by decide),
    ← Nat.add_zero (start + 1), closingFrom_add]
  rfl

/-! ## Groups as two texts -/

/-- What stands before the parenthesis that closes the last of `depth` open groups, and what follows
it. -/
def splitGroup (depth : Int) (t : Text) : Option (Text × Text) :=
  (closingFrom 0 depth t).map fun n => (t.take n, t.drop (n + 1))

/-- Put a text in front of the first part of a split. -/
def inFront (front : Text) (parts : Text × Text) : Text × Text := (front ++ parts.1, parts.2)

/-- Searching on behind some text is splitting with the text in front. -/
theorem map_closingFrom_length (front : Text) (depth : Int) (rest : Text) :
    (closingFrom front.length depth rest).map
        (fun n => ((front ++ rest).take n, (front ++ rest).drop (n + 1)))
      = (splitGroup depth rest).map (inFront front) := by
  rw [← Nat.add_zero front.length, closingFrom_add, splitGroup, Option.map_map, Option.map_map]
  congr 1
  funext n
  simp only [Function.comp, inFront, Nat.add_assoc, List.take_length_add_append,
    List.drop_length_add_append]

section Splits

variable (depth : Int) {c : Char} {p : Text} (rest : Text)

@[simp] theorem splitGroup_nil : splitGroup depth [] = none := by
  rw [splitGroup, closingFrom_nil, Option.map_none]

/-- The parenthesis that closes the last open group. -/
theorem splitGroup_last : splitGroup 1 (')' :: rest) = some ([], rest) := by
  rw [splitGroup, closingFrom_cons _ _ _ (by decide), if_pos ⟨rfl, rfl⟩]
  rfl

/-- Another character outside of quotes stands inside the group. -/
theorem splitGroup_cons (h : c ≠ '"') (hlast : ¬ (c = ')' ∧ depth = 1)) :
    splitGroup depth (c :: rest)
      = (splitGroup (depth + parenthesisWeight c) rest).map (inFront [c]) := by
  rw [splitGroup, closingFrom_cons _ _ _ h, if_neg hlast]
  exact map_closingFrom_length [c] _ rest

/-- A closed phrase stands inside the group as a whole. -/
theorem splitGroup_phrase (h : '"' ∉ p) :
    splitGroup depth ('"' :: (p ++ '"' :: rest))
      = (splitGroup depth rest).map (inFront ('"' :: (p ++ ['"']))) := by
  have hfront := map_closingFrom_length ('"' :: (p ++ ['"'])) depth rest
  have hlength : ('"' :: (p ++ ['"'])).length = 0 + (p.length + 2) := by
    simp
  have htext : '"' :: (p ++ ['"']) ++ rest = '"' :: (p ++ '"' :: rest) := by
    simp
  rw [hlength, htext] at hfront
  rw [splitGroup, closingFrom_phrase _ _ _ h, hfront]

/-- A quote without a partner stands inside the group alone. -/
theorem splitGroup_looseQuote (h : '"' ∉ rest) :
    splitGroup depth ('"' :: rest) = (splitGroup depth rest).map (inFront ['"']) := by
  rw [splitGroup, closingFrom_looseQuote _ _ _ h]
  exact map_closingFrom_length ['"'] depth rest

end Splits

/-! ## What a split says about the text -/

/-- The outcome of a split with a text in front. -/
theorem inFront_eq_some {front : Text} {found : Option (Text × Text)} {inner beyond : Text}
    (h : found.map (inFront front) = some (inner, beyond)) :
    ∃ rest, found = some (rest, beyond) ∧ inner = front ++ rest := by
  obtain ⟨⟨rest, b⟩, hfound, hparts⟩ := Option.map_eq_some_iff.mp h
  cases hparts
  exact ⟨rest, hfound, rfl⟩

/-- A split gives back the text. -/
theorem splitGroup_eq_some {depth : Int} {t inner beyond : Text}
    (h : splitGroup depth t = some (inner, beyond)) : t = inner ++ ')' :: beyond := by
  induction t using quote_induction generalizing depth inner with
  | nil => rw [splitGroup_nil] at h; cases h
  | plain c rest hc ih =>
    by_cases hlast : c = ')' ∧ depth = 1
    · obtain ⟨rfl, rfl⟩ := hlast
      rw [splitGroup_last] at h
      cases h
      rfl
    · rw [splitGroup_cons _ _ hc hlast] at h
      obtain ⟨r, hr, rfl⟩ := inFront_eq_some h
      rw [ih hr, List.append_assoc, List.singleton_append]
  | phrase p rest hp ih =>
    rw [splitGroup_phrase _ _ hp] at h
    obtain ⟨r, hr, rfl⟩ := inFront_eq_some h
    rw [ih hr]
    simp
  | looseQuote rest hq ih =>
    rw [splitGroup_looseQuote _ _ hq] at h
    obtain ⟨r, hr, rfl⟩ := inFront_eq_some h
    rw [ih hr, List.append_assoc, List.singleton_append]

/-- The search ends right behind what stands inside the group. -/
theorem closingFrom_of_splitGroup {depth : Int} {t inner beyond : Text}
    (h : splitGroup depth t = some (inner, beyond)) :
    closingFrom 0 depth t = some inner.length := by
  have hlength := congrArg List.length (splitGroup_eq_some h)
  obtain ⟨n, hend, hparts⟩ := Option.map_eq_some_iff.mp h
  have hinner := congrArg List.length (Prod.mk.inj hparts).1
  rw [List.length_append, List.length_cons] at hlength
  rw [List.length_take] at hinner
  rw [hend, Option.some.injEq]
  omega

/-- The two quotes of a phrase in front. -/
theorem count_quote_phrase {p : Text} (rest : Text) (h : '"' ∉ p) :
    ('"' :: (p ++ ['"']) ++ rest).count '"' = rest.count '"' + 2 := by
  simp [List.count_eq_zero_of_not_mem h]

/-- **No phrase reaches out of a group.**  The quotes inside a group are in pairs, unless no quote
follows it at all. -/
theorem quotes_of_splitGroup {depth : Int} {t inner beyond : Text}
    (h : splitGroup depth t = some (inner, beyond)) :
    inner.count '"' % 2 = 0 ∨ '"' ∉ beyond := by
  induction t using quote_induction generalizing depth inner with
  | nil => rw [splitGroup_nil] at h; cases h
  | plain c rest hc ih =>
    by_cases hlast : c = ')' ∧ depth = 1
    · obtain ⟨rfl, rfl⟩ := hlast
      rw [splitGroup_last] at h
      cases h
      exact Or.inl rfl
    · rw [splitGroup_cons _ _ hc hlast] at h
      obtain ⟨r, hr, rfl⟩ := inFront_eq_some h
      rw [List.singleton_append, List.count_cons_of_ne hc]
      exact ih hr
  | phrase p rest hp ih =>
    rw [splitGroup_phrase _ _ hp] at h
    obtain ⟨r, hr, rfl⟩ := inFront_eq_some h
    rw [count_quote_phrase r hp, Nat.add_mod_right]
    exact ih hr
  | looseQuote rest hq ih =>
    rw [splitGroup_looseQuote _ _ hq] at h
    obtain ⟨r, hr, rfl⟩ := inFront_eq_some h
    -- a quote without a partner has no quote behind it, inside the group or beyond
    refine Or.inr fun hmem => hq ?_
    rw [splitGroup_eq_some hr]
    exact List.mem_append_right r (List.mem_cons_of_mem _ hmem)

/-! ## Splitting a longer text -/

/-- **A closed group stays closed** when a text is appended, if no phrase can reach out of it: either
its quotes are in pairs, or the text holds no quote. -/
theorem splitGroup_append_of_quotes {depth : Int} {t inner beyond s : Text}
    (h : splitGroup depth t = some (inner, beyond)) (hquotes : inner.count '"' % 2 = 0 ∨ '"' ∉ s) :
    splitGroup depth (t ++ s) = some (inner, beyond ++ s) := by
  induction t using quote_induction generalizing depth inner with
  | nil => rw [splitGroup_nil] at h; cases h
  | plain c rest hc ih =>
    by_cases hlast : c = ')' ∧ depth = 1
    · obtain ⟨rfl, rfl⟩ := hlast
      rw [splitGroup_last] at h
      cases h
      rw [List.cons_append, splitGroup_last]
    · rw [splitGroup_cons _ _ hc hlast] at h
      obtain ⟨r, hr, rfl⟩ := inFront_eq_some h
      rw [List.singleton_append, List.count_cons_of_ne hc] at hquotes
      rw [List.cons_append, splitGroup_cons _ _ hc hlast, ih hr hquotes]
      rfl
  | phrase p rest hp ih =>
    rw [splitGroup_phrase _ _ hp] at h
    obtain ⟨r, hr, rfl⟩ := inFront_eq_some h
    rw [count_quote_phrase r hp, Nat.add_mod_right] at hquotes
    rw [List.cons_append, List.append_assoc, List.cons_append, splitGroup_phrase _ _ hp,
      ih hr hquotes]
    rfl
  | looseQuote rest hq ih =>
    rw [splitGroup_looseQuote _ _ hq] at h
    obtain ⟨r, hr, rfl⟩ := inFront_eq_some h
    have hrq : '"' ∉ r := by
      intro hmem
      apply hq
      rw [splitGroup_eq_some hr]
      exact List.mem_append_left _ hmem
    -- a quote without a partner is the only one of the group, so the text must hold none
    have hs : '"' ∉ s := by
      apply hquotes.resolve_left
      rw [List.singleton_append, List.count_cons_self, List.count_eq_zero_of_not_mem hrq]
      omega
    have hboth : '"' ∉ rest ++ s := by
      rw [List.mem_append, not_or]
      exact ⟨hq, hs⟩
    rw [List.cons_append, splitGroup_looseQuote _ _ hboth, ih hr (Or.inr hs)]
    rfl

/-- A closed group stays closed when a text without quotes is appended. -/
theorem splitGroup_append {depth : Int} {t inner beyond s : Text} (hs : '"' ∉ s)
    (h : splitGroup depth t = some (inner, beyond)) :
    splitGroup depth (t ++ s) = some (inner, beyond ++ s) :=
  splitGroup_append_of_quotes h (Or.inr hs)

/-- **An open group stays open** when a text without quotes is appended that closes nothing from
outside. -/
theorem splitGroup_append_eq_none {depth : Int} {t s : Text} (hdepth : 1 ≤ depth) (hs : '"' ∉ s)
    (hopen : ∀ d, 1 ≤ d → splitGroup d s = none) (h : splitGroup depth t = none) :
    splitGroup depth (t ++ s) = none := by
  induction t using quote_induction generalizing depth with
  | nil => exact hopen depth hdepth
  | plain c rest hc ih =>
    by_cases hlast : c = ')' ∧ depth = 1
    · obtain ⟨rfl, rfl⟩ := hlast
      rw [splitGroup_last] at h
      cases h
    · rw [splitGroup_cons _ _ hc hlast, Option.map_eq_none_iff] at h
      -- a group stays open: at depth one a closing parenthesis would have ended the search
      have hdepth' : 1 ≤ depth + parenthesisWeight c := by
        unfold parenthesisWeight
        split_ifs with h₁ h₂
        · omega
        · have hne : depth ≠ 1 := fun hd => hlast ⟨h₂, hd⟩
          omega
        · omega
      rw [List.cons_append, splitGroup_cons _ _ hc hlast, ih hdepth' h]
      rfl
  | phrase p rest hp ih =>
    rw [splitGroup_phrase _ _ hp, Option.map_eq_none_iff] at h
    rw [List.cons_append, List.append_assoc, List.cons_append, splitGroup_phrase _ _ hp,
      ih hdepth h]
    rfl
  | looseQuote rest hq ih =>
    rw [splitGroup_looseQuote _ _ hq, Option.map_eq_none_iff] at h
    have hboth : '"' ∉ rest ++ s := by
      rw [List.mem_append, not_or]
      exact ⟨hq, hs⟩
    rw [List.cons_append, splitGroup_looseQuote _ _ hboth, ih hdepth h]
    rfl

/-- **A text that closes nothing from outside is passed over**, if it holds no quotes. -/
theorem splitGroup_append_nested {depth : Int} {x : Text} (rest : Text) (hx : '"' ∉ x)
    (hnested : ∀ p, p <+: x → 1 ≤ depth + nesting p) :
    splitGroup depth (x ++ rest)
      = (splitGroup (depth + nesting x) rest).map (inFront x) := by
  induction x generalizing depth with
  | nil =>
    rw [nesting_nil, Int.add_zero, List.nil_append]
    cases splitGroup depth rest <;> rfl
  | cons c x ih =>
    rw [List.mem_cons, not_or] at hx
    have hfirst : 1 ≤ depth + parenthesisWeight c := by
      have hone := hnested [c] (List.prefix_append [c] x)
      rwa [nesting_cons, nesting_nil, Int.add_zero] at hone
    have hlast : ¬ (c = ')' ∧ depth = 1) := by
      rintro ⟨rfl, rfl⟩
      exact absurd hfirst (by decide)
    have hrest : ∀ p, p <+: x → 1 ≤ depth + parenthesisWeight c + nesting p := by
      intro p hp
      have hcons := hnested (c :: p) (List.cons_prefix_cons.mpr ⟨rfl, hp⟩)
      rw [nesting_cons] at hcons
      omega
    -- the bound on the nesting moves from the text to its rest by the weight of the character
    rw [List.cons_append, splitGroup_cons _ _ (Ne.symm hx.1) hlast, ih hx.2 hrest, nesting_cons,
      Int.add_assoc, Option.map_map]
    rfl

/-- A text without quotes and parentheses does not change the nesting. -/
theorem nesting_of_plain {x : Text} (hx : ∀ c ∈ x, c ≠ '"' ∧ c ≠ '(' ∧ c ≠ ')') : nesting x = 0 :=
  nesting_of_not_mem (fun h => (hx _ h).2.1 rfl) (fun h => (hx _ h).2.2 rfl)

/-- A text without quotes and parentheses is passed over. -/
theorem splitGroup_append_plain {depth : Int} {x : Text} (rest : Text) (hdepth : 1 ≤ depth)
    (hx : ∀ c ∈ x, c ≠ '"' ∧ c ≠ '(' ∧ c ≠ ')') :
    splitGroup depth (x ++ rest) = (splitGroup depth rest).map (inFront x) := by
  have hzero : ∀ p, p <+: x → nesting p = 0 := fun p hp =>
    nesting_of_plain fun c hc => hx c (hp.subset hc)
  rw [splitGroup_append_nested rest (fun h => (hx _ h).1 rfl), hzero x (List.prefix_refl x),
    Int.add_zero]
  intro p hp
  rw [hzero p hp]
  omega

/-- The group of a balanced text without quotes ends right behind it. -/
theorem splitGroup_balanced {x : Text} (rest : Text) (hx : '"' ∉ x) (hbalanced : Balanced x) :
    splitGroup 1 (x ++ ')' :: rest) = some (x, rest) := by
  rw [splitGroup_append_nested _ hx, hbalanced.1, Int.add_zero, splitGroup_last]
  · rw [Option.map_some, inFront, List.append_nil]
  · intro p hp
    have hp := hbalanced.2 p hp
    omega

/-- **Why a group is never closed.**  Unless a phrase hides a closing parenthesis, a group that is
never closed opens more parentheses than it closes. -/
theorem nesting_of_splitGroup_eq_none {depth : Int} {t : Text} (hdepth : 1 ≤ depth)
    (h : splitGroup depth t = none) (hseen : ∀ p, .quoted p ∈ lexemes t → ')' ∉ p) :
    1 ≤ depth + nesting t := by
  induction t using scan_induction generalizing depth with
  | nil => simpa using hdepth
  | blank c rest hb ih =>
    have hplain : ∀ d ∈ [c], d ≠ '"' ∧ d ≠ '(' ∧ d ≠ ')' :=
      List.forall_mem_singleton.mpr (plain_of_isBlank hb)
    rw [← List.singleton_append, splitGroup_append_plain _ hdepth hplain,
      Option.map_eq_none_iff] at h
    rw [lexemes_blank _ hb] at hseen
    rw [← List.singleton_append, nesting_append, nesting_of_plain hplain, Int.zero_add]
    exact ih hdepth h hseen
  | mark c l rest hl ih =>
    by_cases hlast : c = ')' ∧ depth = 1
    · obtain ⟨rfl, rfl⟩ := hlast
      rw [splitGroup_last] at h
      cases h
    · rw [splitGroup_cons _ _ (ne_quote_of_ofMark? hl) hlast, Option.map_eq_none_iff] at h
      rw [lexemes_mark _ hl] at hseen
      rw [nesting_cons, ← Int.add_assoc]
      refine ih ?_ h fun p hp => hseen p (List.mem_cons_of_mem _ hp)
      rcases ofMark?_eq_some hl with ⟨rfl, -⟩ | ⟨rfl, -⟩ | ⟨rfl, -⟩
      · show 1 ≤ depth + 1
        omega
      · have hne : depth ≠ 1 := fun hd => hlast ⟨rfl, hd⟩
        show 1 ≤ depth + -1
        omega
      · show 1 ≤ depth + 0
        omega
  | phrase p rest hp ih =>
    rw [splitGroup_phrase _ _ hp, Option.map_eq_none_iff] at h
    rw [lexemes_phrase _ hp] at hseen
    have hrest := ih hdepth h fun q hq => hseen q (List.mem_cons_of_mem _ hq)
    -- the search does not see what the phrase opens, and it closes nothing by assumption
    have hphrase : nesting p = p.count '(' := by
      rw [nesting_eq_count, List.count_eq_zero_of_not_mem (hseen p List.mem_cons_self)]
      omega
    rw [nesting_cons, nesting_append, nesting_cons, hphrase]
    show 1 ≤ depth + (0 + (_ + (0 + nesting rest)))
    omega
  | looseQuote rest hq ih =>
    rw [splitGroup_looseQuote _ _ hq, Option.map_eq_none_iff] at h
    rw [lexemes_looseQuote _ hq] at hseen
    have hrest := ih hdepth h hseen
    rw [nesting_cons]
    show 1 ≤ depth + (0 + nesting rest)
    omega
  | word w rest hne hw hrest ih =>
    have hplain : ∀ c ∈ w, c ≠ '"' ∧ c ≠ '(' ∧ c ≠ ')' := fun c hc =>
      plain_of_isWordPart (hw c hc)
    rw [splitGroup_append_plain _ hdepth hplain, Option.map_eq_none_iff] at h
    rw [lexemes_word _ hne hw hrest] at hseen
    rw [nesting_append, nesting_of_plain hplain, Int.zero_add]
    exact ih hdepth h fun p hp => hseen p (List.mem_cons_of_mem _ hp)

end CandidateSearch

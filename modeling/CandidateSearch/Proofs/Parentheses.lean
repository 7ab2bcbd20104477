import CandidateSearch.Proofs.Groups
import CandidateSearch.Proofs.Placement

/-!
# Groups in tokens

The search for the end of a group and the tokenizer pair quotes apart from each other, the one in
the whole rest of a query and the other in the content that was cut out of it.  They agree: the
search ends at the closing parenthesis at which the tokens close as many groups as they open, and
the tokens of the content are those that stand inside the group.

* `closingFrom_eq_closingToken?`: the search over characters is a search over tokens;
* `closingToken?_eq_find?`: that search looks at one initial stretch of the tokens after the other;
* `tokensFrom_splitGroup`: a group can be cut out without changing its tokens;
* `tokensBalanced_of_splitGroup`: what stands inside a group is balanced;
* `groupEnd?_eq_groupClosing?`: the search and the tokenizer agree.
-/

namespace CandidateSearch

/-! ## Nesting of tokens -/

/-- How many more parentheses some tokens open than they close. -/
def tokenNesting (tokens : List Token) : Int :=
  (tokens.countP (·.lexeme = .opening) : Int) - tokens.countP (·.lexeme = .closing)

/-- Every group that the tokens open is closed, and none is closed that was not opened. -/
def TokensBalanced (tokens : List Token) : Prop :=
  tokenNesting tokens = 0 ∧ ∀ p, p <+: tokens → 0 ≤ tokenNesting p

/-- With `depth` groups open in front, the last of some tokens closes a parenthesis, and no group is
open behind it. -/
def closesGroup (depth : Int) (tokens : List Token) : Bool :=
  tokens.getLast?.any (·.lexeme = .closing) && depth + tokenNesting tokens = 0

/-- The first closing parenthesis up to which as many parentheses are closed as are opened. -/
def groupClosing? (tokens : List Token) : Option Token :=
  (tokens.inits.find? (closesGroup 0)).bind List.getLast?

/-- What a lexeme does to the nesting of parentheses. -/
def Lexeme.weight : Lexeme → Int
  | .opening => 1
  | .closing => -1
  | _ => 0

@[simp] theorem tokenNesting_nil : tokenNesting [] = 0 := rfl

@[simp] theorem tokenNesting_cons (tok : Token) (tokens : List Token) :
    tokenNesting (tok :: tokens) = tok.lexeme.weight + tokenNesting tokens := by
  rw [tokenNesting, tokenNesting, List.countP_cons, List.countP_cons]
  cases tok.lexeme <;> simp [Lexeme.weight] <;> omega

/-- A mark weighs as much as its character. -/
theorem weight_of_ofMark? {c : Char} {l : Lexeme} (h : Lexeme.ofMark? c = some l) :
    l.weight = parenthesisWeight c ∧ (l = .closing ↔ c = ')') := by
  rcases ofMark?_eq_some h with ⟨rfl, rfl⟩ | ⟨rfl, rfl⟩ | ⟨rfl, rfl⟩ <;> decide

/-- A word or an operator is no parenthesis. -/
theorem weight_ofWord (w : Text) : (Lexeme.ofWord w).weight = 0 ∧ Lexeme.ofWord w ≠ .closing := by
  rcases ofWord_cases w with hw | ⟨op, hw⟩ <;> rw [hw] <;> exact ⟨rfl, Lexeme.noConfusion⟩

/-! ## The search over tokens -/

/-- The token that closes the last of `depth` open groups. -/
def closingToken? (depth : Int) : List Token → Option Token
  | [] => none
  | tok :: tokens =>
    if tok.lexeme = .closing ∧ depth = 1 then some tok
    else closingToken? (depth + tok.lexeme.weight) tokens

theorem closingToken?_nil (depth : Int) : closingToken? depth [] = none := rfl

theorem closingToken?_cons (depth : Int) (tok : Token) (tokens : List Token) :
    closingToken? depth (tok :: tokens)
      = if tok.lexeme = .closing ∧ depth = 1 then some tok
        else closingToken? (depth + tok.lexeme.weight) tokens := rfl

/-- A token that is no parenthesis is passed over. -/
theorem closingToken?_cons_of_weight (depth : Int) {tok : Token} (tokens : List Token)
    (h : tok.lexeme.weight = 0 ∧ tok.lexeme ≠ .closing) :
    closingToken? depth (tok :: tokens) = closingToken? depth tokens := by
  rw [closingToken?_cons, if_neg fun hlast => h.2 hlast.1, h.1, Int.add_zero]

/-- **The search over characters is a search over tokens.** -/
theorem closingFrom_eq_closingToken? (pos : Nat) (depth : Int) (t : Text) :
    closingFrom pos depth t = (closingToken? depth (tokensFrom pos t)).map (·.position) := by
  induction t using scan_induction generalizing pos depth with
  | nil => rw [closingFrom_nil, tokensFrom_nil, closingToken?_nil, Option.map_none]
  | blank c rest hb ih =>
    have hplain : ∀ d ∈ [c], d ≠ '"' ∧ d ≠ '(' ∧ d ≠ ')' :=
      List.forall_mem_singleton.mpr (plain_of_isBlank hb)
    rw [tokensFrom_blank _ _ hb, ← ih]
    exact closingFrom_append_plain pos depth rest hplain
  | mark c l rest hl ih =>
    obtain ⟨hweight, hclosing⟩ := weight_of_ofMark? hl
    have hsame : l = .closing ∧ depth = 1 ↔ c = ')' ∧ depth = 1 := and_congr_left' hclosing
    rw [tokensFrom_mark _ _ hl, closingFrom_cons _ _ _ (ne_quote_of_ofMark? hl), closingToken?_cons]
    by_cases hlast : c = ')' ∧ depth = 1
    · rw [if_pos hlast, if_pos (hsame.mpr hlast), Option.map_some]
    · rw [if_neg hlast, if_neg (mt hsame.mp hlast), ← hweight, ih]
  | phrase p rest hp ih =>
    rw [tokensFrom_phrase _ _ hp, closingFrom_phrase _ _ _ hp, ih,
      closingToken?_cons_of_weight _ _ ⟨rfl, Lexeme.noConfusion⟩]
  | looseQuote rest hq ih =>
    rw [tokensFrom_looseQuote _ _ hq, closingFrom_looseQuote _ _ _ hq, ih]
  | word w rest hne hw hrest ih =>
    have hplain : ∀ c ∈ w, c ≠ '"' ∧ c ≠ '(' ∧ c ≠ ')' := fun c hc =>
      plain_of_isWordPart (hw c hc)
    rw [tokensFrom_word _ _ hne hw hrest, closingFrom_append_plain _ _ _ hplain, ih,
      closingToken?_cons_of_weight _ _ (weight_ofWord w)]

/-- A first token that closes the last open group. -/
theorem closesGroup_singleton {depth : Int} {tok : Token} :
    closesGroup depth [tok] = true ↔ tok.lexeme = .closing ∧ depth = 1 := by
  rw [closesGroup, tokenNesting_cons, tokenNesting_nil]
  by_cases hclosing : tok.lexeme = .closing
  · simp [hclosing, Lexeme.weight]
    omega
  · simp [hclosing]

/-- A first token that leaves a group open counts for the tokens behind it. -/
theorem closesGroup_cons {depth : Int} {tok : Token} (tokens : List Token)
    (h : ¬ (tok.lexeme = .closing ∧ depth = 1)) :
    closesGroup depth (tok :: tokens) = closesGroup (depth + tok.lexeme.weight) tokens := by
  cases tokens with
  | nil =>
    rw [← closesGroup_singleton, Bool.not_eq_true] at h
    rw [h]
    rfl
  | cons next tokens =>
    rw [closesGroup, closesGroup, List.getLast?_cons_cons, tokenNesting_cons tok, Int.add_assoc]

/-- Tokens that close a group are not none. -/
theorem ne_nil_of_closesGroup {depth : Int} {tokens : List Token}
    (h : closesGroup depth tokens = true) : tokens ≠ [] := by
  rintro rfl
  cases h

/-- **The search over tokens takes one initial stretch after the other.** -/
theorem closingToken?_eq_find? (depth : Int) (tokens : List Token) :
    closingToken? depth tokens
      = (tokens.inits.find? (closesGroup depth)).bind List.getLast? := by
  induction tokens generalizing depth with
  | nil => rfl
  | cons tok tokens ih =>
    have hfirst : ¬ closesGroup depth [] = true := fun h => ne_nil_of_closesGroup h rfl
    rw [closingToken?_cons, List.inits_cons, List.find?_cons_of_neg hfirst, List.find?_map]
    by_cases hlast : tok.lexeme = .closing ∧ depth = 1
    · obtain ⟨longer, hlonger⟩ : ∃ longer, tokens.inits = [] :: longer := by
        cases tokens <;> exact ⟨_, rfl⟩
      have hcloses : (closesGroup depth ∘ (tok :: ·)) [] = true := closesGroup_singleton.mpr hlast
      rw [if_pos hlast, hlonger, List.find?_cons_of_pos hcloses]
      rfl
    · have hrest : closesGroup depth ∘ (tok :: ·)
          = closesGroup (depth + tok.lexeme.weight) := by
        funext seen
        exact closesGroup_cons seen hlast
      rw [if_neg hlast, ih, hrest]
      cases hfound : tokens.inits.find? (closesGroup (depth + tok.lexeme.weight)) with
      | none => rfl
      | some seen =>
        obtain ⟨last, hseen⟩ := Option.ne_none_iff_exists'.mp
          (mt List.getLast?_eq_none_iff.mp (ne_nil_of_closesGroup (List.find?_some hfound)))
        rw [Option.map_some, Option.bind_some, Option.bind_some, List.getLast?_cons, hseen]
        rfl

/-- Where the search over tokens ends: nothing in front ends it, and the token closes the last open
group. -/
theorem closingToken?_eq_some {depth : Int} {tokens : List Token} {tok : Token}
    (h : closingToken? depth tokens = some tok) :
    ∃ before after, tokens = before ++ tok :: after ∧ closingToken? depth before = none ∧
      depth + tokenNesting before = 1 := by
  induction tokens generalizing depth with
  | nil => cases h
  | cons first tokens ih =>
    rw [closingToken?_cons] at h
    by_cases hlast : first.lexeme = .closing ∧ depth = 1
    · rw [if_pos hlast, Option.some.injEq] at h
      exact ⟨[], tokens, by rw [h]; rfl, rfl, by rw [hlast.2]; rfl⟩
    · rw [if_neg hlast] at h
      obtain ⟨before, after, htokens, hnone, hdepth⟩ := ih h
      refine ⟨first :: before, after, by rw [htokens]; rfl, ?_, ?_⟩
      · rw [closingToken?_cons, if_neg hlast, hnone]
      · rw [tokenNesting_cons, ← Int.add_assoc, hdepth]

/-- A search that does not end never leaves the last open group. -/
theorem nesting_of_closingToken?_eq_none {depth : Int} {tokens : List Token} (hdepth : 1 ≤ depth)
    (h : closingToken? depth tokens = none) {p : List Token} (hp : p <+: tokens) :
    1 ≤ depth + tokenNesting p := by
  induction tokens generalizing depth p with
  | nil =>
    rw [List.prefix_nil.mp hp, tokenNesting_nil, Int.add_zero]
    exact hdepth
  | cons tok tokens ih =>
    rw [closingToken?_cons] at h
    by_cases hlast : tok.lexeme = .closing ∧ depth = 1
    · rw [if_pos hlast] at h
      cases h
    · rw [if_neg hlast] at h
      cases p with
      | nil => rwa [tokenNesting_nil, Int.add_zero]
      | cons first p =>
        obtain ⟨rfl, hrest⟩ := List.cons_prefix_cons.mp hp
        -- only a closing parenthesis lowers the nesting, and not at depth one
        have hnext : 1 ≤ depth + first.lexeme.weight := by
          cases hl : first.lexeme with
          | closing =>
            have hne : depth ≠ 1 := fun hone => hlast ⟨hl, hone⟩
            rw [Lexeme.weight]
            omega
          | _ => simp only [Lexeme.weight]; omega
        rw [tokenNesting_cons, ← Int.add_assoc]
        exact ih hnext h hrest

/-! ## Cutting out a group -/

/-- **A group can be cut out without changing its tokens.**  Its closing parenthesis stands behind
them and in front of those that follow. -/
theorem tokensFrom_splitGroup {depth : Int} {t inner beyond : Text}
    (h : splitGroup depth t = some (inner, beyond)) (pos : Nat) :
    tokensFrom pos t = tokensFrom pos inner ++ ⟨.closing, pos + inner.length⟩ ::
      tokensFrom (pos + inner.length + 1) beyond := by
  have hquotes : inner.count '"' % 2 = 0 ∨ '"' ∉ ')' :: beyond := by
    refine (quotes_of_splitGroup h).imp_right fun hbeyond hq => ?_
    rcases List.mem_cons.mp hq with hq | hq
    · exact absurd hq (by decide)
    · exact hbeyond hq
  have hapart : BeginsApart (')' :: beyond) := beginsApart_cons _ (by decide)
  rw [splitGroup_eq_some h, tokensFrom_append pos hapart hquotes, tokensFrom_mark _ _ rfl]

/-- Tokens in order are divided by the position of one of them. -/
theorem filter_position_lt {before after : List Token} {tok : Token}
    (h : (before ++ tok :: after).Pairwise fun a b => a.position < b.position) :
    (before ++ tok :: after).filter (·.position < tok.position) = before := by
  obtain ⟨-, hright, hacross⟩ := List.pairwise_append.mp h
  have hafter := (List.pairwise_cons.mp hright).1
  have hnone : (tok :: after).filter (·.position < tok.position) = [] := by
    rw [List.filter_eq_nil_iff]
    intro other hother
    rcases List.mem_cons.mp hother with rfl | hother
    · simp
    · simpa using Nat.le_of_lt (hafter other hother)
  rw [List.filter_append, hnone, List.append_nil, List.filter_eq_self]
  intro other hother
  simpa using hacross other hother tok List.mem_cons_self

/-- **What stands inside a group is balanced.** -/
theorem tokensBalanced_of_splitGroup {t inner beyond : Text}
    (h : splitGroup 1 t = some (inner, beyond)) : TokensBalanced (tokenize inner) := by
  have hend := closingFrom_of_splitGroup h
  rw [closingFrom_eq_closingToken?] at hend
  obtain ⟨tok, htok, hposition⟩ := Option.map_eq_some_iff.mp hend
  obtain ⟨before, after, htokens, hnone, hdepth⟩ := closingToken?_eq_some htok
  -- the tokens are divided at the same position where the group is cut out
  have hinner : before = tokenize inner := by
    have hcut := tokensFrom_splitGroup h 0
    have hordered := pairwise_position_tokensFrom 0 t
    have hbefore := filter_position_lt (htokens ▸ hordered)
    have hcontent := filter_position_lt (hcut ▸ hordered)
    rw [← htokens, hposition] at hbefore
    rw [← hcut, Nat.zero_add] at hcontent
    rw [← hbefore, hcontent]
    rfl
  rw [← hinner]
  refine ⟨by omega, fun p hp => ?_⟩
  have hprefix := nesting_of_closingToken?_eq_none (Int.le_refl 1) hnone hp
  omega

/-! ## The search in a query -/

/-- From a plain index on, the search answers with a plain index. -/
theorem groupEnd?_natCast (t : Text) (start : Nat) :
    groupEnd? t start = .ok ((groupEnd t start).map Int.ofNat) := by
  rw [groupEnd?, if_pos (Int.natCast_nonneg start), Int.toNat_natCast]

/-- **The end of a group is a token.** -/
theorem groupEnd_eq_groupClosing? (t : Text) (start : Nat) :
    groupEnd t start
      = (groupClosing? (tokenize (t.drop start))).map fun tok => start + tok.position := by
  rw [groupEnd, ← Nat.add_zero start, closingFrom_add, closingFrom_eq_closingToken?,
    closingToken?_eq_find?, Option.map_map, Nat.add_zero]
  rfl

/-- A token one character earlier. -/
def Token.back (tok : Token) : Token := ⟨tok.lexeme, tok.position - 1⟩

/-- Moving a token on by one character and back. -/
theorem Token.back_shift (tok : Token) : (Token.shift 1 tok).back = tok := by
  rw [Token.back, Token.shift, Nat.add_sub_cancel_left]

/-- The tokens that stand inside a group are those of its content. -/
theorem tokenize_inner {t inner beyond : Text} (h : splitGroup 1 t = some (inner, beyond)) :
    tokenize inner
      = ((tokenize ('(' :: t)).filter fun tok =>
          0 < tok.position ∧ tok.position < inner.length + 1).map Token.back := by
  have htokens : tokenize ('(' :: t) = ⟨.opening, 0⟩ :: (tokensFrom 1 inner ++
      ⟨.closing, 1 + inner.length⟩ :: tokensFrom (1 + inner.length + 1) beyond) := by
    rw [← tokensFrom_splitGroup h 1]
    exact tokensFrom_mark 0 t rfl
  have hinside : (tokensFrom 1 inner).filter (fun tok =>
      0 < tok.position ∧ tok.position < inner.length + 1) = tokensFrom 1 inner := by
    rw [List.filter_eq_self]
    intro tok htok
    have hposition := position_of_mem_tokensFrom htok
    simp only [decide_eq_true_eq]
    omega
  have hbehind : (tokensFrom (1 + inner.length + 1) beyond).filter (fun tok =>
      0 < tok.position ∧ tok.position < inner.length + 1) = [] := by
    rw [List.filter_eq_nil_iff]
    intro tok htok
    have hposition := position_of_mem_tokensFrom htok
    simp only [decide_eq_true_eq]
    omega
  rw [htokens, List.filter_cons_of_neg (by simp), List.filter_append, hinside,
    List.filter_cons_of_neg (by simp [Nat.add_comm]), hbehind, List.append_nil, ← Nat.add_zero 1,
    tokensFrom_add, List.map_map]
  exact (List.map_id'' Token.back_shift _).symm

/-- **The search for the end of a group and the tokenizer agree.**  The group ends at the first
closing parenthesis up to which the tokens close as many parentheses as they open.  What stands
inside has the tokens that stand there in the whole text, so its parentheses are balanced. -/
theorem groupEnd?_eq_groupClosing? (t : Text) (start : Nat) :
    groupEnd? t start
        = .ok ((groupClosing? (tokenize (t.drop start))).map fun tok =>
            ((start + tok.position : Nat) : Int)) ∧
      ∀ stop : Nat, t[start]? = some '(' → groupEnd? t start = .ok (some stop) →
        tokenize ((t.take stop).drop (start + 1))
          = ((tokenize (t.drop start)).filter fun tok =>
              0 < tok.position ∧ tok.position < stop - start).map Token.back ∧
        TokensBalanced (tokenize ((t.take stop).drop (start + 1))) := by
  constructor
  · rw [groupEnd?_natCast, groupEnd_eq_groupClosing?, Option.map_map]
    rfl
  · intro stop hopen hstop
    obtain ⟨u, hu⟩ : ∃ u, t.drop start = '(' :: u := by
      rw [← List.head?_drop] at hopen
      exact List.head?_eq_some_iff.mp hopen
    have hnext : t.drop (start + 1) = u := by
      rw [← List.drop_drop, hu, List.drop_one, List.tail_cons]
    rw [groupEnd?_natCast, groupEnd_of_drop hu] at hstop
    cases hsplit : splitGroup 1 u with
    | none =>
      rw [splitGroup, Option.map_eq_none_iff] at hsplit
      rw [hsplit] at hstop
      cases hstop
    | some parts =>
      obtain ⟨inner, beyond⟩ := parts
      rw [closingFrom_of_splitGroup hsplit] at hstop
      have hend : start + 1 + inner.length = stop :=
        Int.ofNat.inj (Option.some.inj (Except.ok.inj hstop))
      have hwidth : stop - start = inner.length + 1 := by
        omega
      have hinner : (t.take stop).drop (start + 1) = inner := by
        rw [List.drop_take, hnext, splitGroup_eq_some hsplit, ← hend, Nat.add_sub_cancel_left,
          List.take_left]
      rw [hinner, hu, hwidth]
      exact ⟨tokenize_inner hsplit, tokensBalanced_of_splitGroup hsplit⟩

/-- A group with a phrase that hides a parenthesis, a group inside, and a quote without a partner
right in front of the last word. -/
def crowdedGroup : Text := "x(\"a)\"(b)\"c) d".toList

/-- The crowded group ends at its own parenthesis, and its content keeps its tokens. -/
theorem groupEnd?_eq_groupClosing?_crowdedGroup :
    crowdedGroup[1]? = some '(' ∧ groupEnd? crowdedGroup 1 = .ok (some 11) ∧
      tokenize ((crowdedGroup.take 11).drop 2)
        = ((tokenize (crowdedGroup.drop 1)).filter fun tok =>
            0 < tok.position ∧ tok.position < 11 - 1).map Token.back ∧
      TokensBalanced (tokenize ((crowdedGroup.take 11).drop 2)) := by
  have hstop : groupEnd? crowdedGroup (1 : Nat) = .ok (some (11 : Nat)) := by
    decide +kernel
  exact ⟨rfl, hstop, (groupEnd?_eq_groupClosing? crowdedGroup 1).2 11 rfl hstop⟩

end CandidateSearch

import CandidateSearch.Proofs.Terms

/-!
# Negation with a stack

The reading of a content remembers how deep in groups it stands and how deep the outermost negated
group lies.  What these two numbers stand for is a stack with an entry for every parenthesis that is
open, which says whether NOT stands right in front of it: the depth is the height of the stack, and
the outermost negated group is its lowest entry that says so.  A term is negated if NOT stands right
in front of it or of a parenthesis that is open around it.

* `NegationState.Follows.step`, `NegationState.Follows.run`: the numbers follow the stack;
* `markLexemes_eq_occurrencesFrom`: both readings mark the same terms;
* `listsFirst_eraseDups`, `ListsFirst.unique`: what it means to list occurrences by the first;
* `listsFirst_occurrences_iff`: the terms of a content, in both modes.
-/

namespace CandidateSearch

/-! ## The stack -/

/-- What a reading with a stack remembers: the token in front, and for every parenthesis that is
open, the innermost first, whether NOT stands right in front of it. -/
structure GroupStack where
  previous : Option Lexeme
  flags : List Bool

namespace GroupStack

/-- In front of the first token. -/
def start : GroupStack := ⟨none, []⟩

/-- The token right in front is NOT. -/
def afterNot (k : GroupStack) : Bool := k.previous = some (.operator .not)

/-- A term read here is negated: NOT stands right in front of it or of an open parenthesis. -/
def negates (k : GroupStack) : Bool := k.afterNot || k.flags.contains true

/-- After one token.  An opening parenthesis is pushed, and a closing one pops the innermost that is
open, or is ignored if none is. -/
def step (k : GroupStack) (l : Lexeme) : GroupStack where
  previous := some l
  flags :=
    match l with
    | .opening => k.afterNot :: k.flags
    | .closing => k.flags.tail
    | _ => k.flags

/-- After some tokens. -/
def run (k : GroupStack) (ls : List Lexeme) : GroupStack := ls.foldl step k

end GroupStack

/-- The occurrences of terms among the remaining tokens, each with whether it is negated. -/
def occurrencesFrom (k : GroupStack) : List Lexeme → List MarkedTerm
  | [] => []
  | l :: rest =>
    (l.term?.map fun text => ⟨text, k.negates⟩).toList ++ occurrencesFrom (k.step l) rest

/-- The occurrences of terms in a content, in order, each with whether it is negated. -/
def occurrences (content : Text) : List MarkedTerm := occurrencesFrom .start (lexemes content)

/-! ## The outermost flag -/

/-- How deep the outermost flag of a stack lies. -/
def outermostFlag : List Bool → Option Nat
  | [] => none
  | flag :: flags => (outermostFlag flags).or (if flag then some (flags.length + 1) else none)

/-- The outermost flag lies in the stack. -/
theorem le_length_of_mem_outermostFlag {flags : List Bool} {d : Nat}
    (h : d ∈ outermostFlag flags) : d ≤ flags.length := by
  induction flags with
  | nil => cases h
  | cons flag flags ih =>
    rw [outermostFlag, Option.mem_def, Option.or_eq_some_iff] at h
    rw [List.length_cons]
    rcases h with h | ⟨-, h⟩
    · exact Nat.le_succ_of_le (ih h)
    · split_ifs at h
      exact Nat.le_of_eq (Option.some.inj h).symm

/-- There is an outermost flag exactly if there is a flag. -/
theorem isSome_outermostFlag (flags : List Bool) :
    (outermostFlag flags).isSome = flags.contains true := by
  induction flags with
  | nil => rfl
  | cons flag flags ih =>
    rw [outermostFlag, Option.isSome_or, ih, List.contains_cons]
    cases flag <;> simp

/-- Without the innermost entry, the outermost flag is the same, unless it is that entry. -/
theorem outermostFlag_tail (flags : List Bool) :
    outermostFlag flags.tail = (outermostFlag flags).filter (· < flags.length) := by
  cases flags with
  | nil => rfl
  | cons flag flags =>
    rw [List.tail_cons, outermostFlag, List.length_cons]
    cases hrest : outermostFlag flags with
    | none => cases flag <;> simp [Option.filter]
    | some d =>
      have hd : d < flags.length + 1 :=
        Nat.lt_succ_of_le (le_length_of_mem_outermostFlag hrest)
      simp [Option.filter, hd]

/-! ## The numbers follow the stack -/

/-- The depth is the height of the stack, the outermost negated group its lowest flag, and a NOT is
pending if it is the token in front. -/
structure NegationState.Follows (s : NegationState) (k : GroupStack) : Prop where
  depth : s.depth = k.flags.length
  negatedAt : s.negatedAt = outermostFlag k.flags
  pending : s.pending = k.afterNot

/-- The beginning of the two readings. -/
theorem NegationState.follows_start : NegationState.start.Follows .start := ⟨rfl, rfl, rfl⟩

/-- Both readings agree on what is negated. -/
theorem NegationState.Follows.negates {s : NegationState} {k : GroupStack} (h : s.Follows k) :
    s.negates = k.negates := by
  rw [NegationState.negates, GroupStack.negates, h.pending, h.negatedAt, isSome_outermostFlag]

/-- **One token keeps the readings together.** -/
theorem NegationState.Follows.step {s : NegationState} {k : GroupStack} (h : s.Follows k)
    (l : Lexeme) : (s.step l).Follows (k.step l) := by
  cases l with
  | operator op => exact ⟨h.depth, h.negatedAt, by cases op <;> rfl⟩
  | opening =>
    refine ⟨congrArg Nat.succ h.depth, ?_, rfl⟩
    -- the new group is the outermost negated one only if none around it is
    show (if s.pending && s.negatedAt.isNone then some (s.depth + 1) else s.negatedAt)
      = outermostFlag (k.afterNot :: k.flags)
    rw [outermostFlag, h.pending, h.negatedAt, h.depth]
    cases outermostFlag k.flags <;> cases k.afterNot <;> rfl
  | closing =>
    refine ⟨?_, ?_, rfl⟩
    · show s.depth - 1 = k.flags.tail.length
      rw [List.length_tail, h.depth]
    · show s.negatedAt.filter (· < s.depth) = outermostFlag k.flags.tail
      rw [outermostFlag_tail, h.negatedAt, h.depth]
  | comma => exact ⟨h.depth, h.negatedAt, rfl⟩
  | word t => exact ⟨h.depth, h.negatedAt, rfl⟩
  | quoted t => exact ⟨h.depth, h.negatedAt, rfl⟩

/-- **So does any number of tokens.** -/
theorem NegationState.Follows.run {s : NegationState} {k : GroupStack} (h : s.Follows k)
    (ls : List Lexeme) : (s.run ls).Follows (k.run ls) := by
  induction ls generalizing s k with
  | nil => exact h
  | cons l ls ih => exact ih (h.step l)

/-- The token in front is the last that was read. -/
theorem GroupStack.previous_run (k : GroupStack) (ls : List Lexeme) :
    (k.run ls).previous = ls.getLast?.or k.previous := by
  induction ls generalizing k with
  | nil => rfl
  | cons l ls ih =>
    show ((k.step l).run ls).previous = _
    rw [ih, List.getLast?_cons]
    cases ls.getLast? <;> rfl

/-- **A reading that leaves no group open** leaves only a NOT behind, if it ends in one. -/
theorem NegationState.run_start_of_depth {ls : List Lexeme} (h : (start.run ls).depth = 0) :
    start.run ls = ⟨0, none, decide (ls.getLast? = some (.operator .not))⟩ := by
  have hfollows := follows_start.run ls
  -- no group is open, so the stack is empty and holds no flag
  have hflags : (GroupStack.start.run ls).flags = [] := by
    rw [← List.length_eq_zero_iff, ← hfollows.depth, h]
  have hprevious : (GroupStack.start.run ls).previous = ls.getLast? := by
    rw [GroupStack.previous_run, GroupStack.start, Option.or_none]
  have hnegatedAt := hfollows.negatedAt
  have hpending := hfollows.pending
  rw [hflags] at hnegatedAt
  rw [GroupStack.afterNot, hprevious] at hpending
  cases hstate : start.run ls
  rw [hstate] at h hnegatedAt hpending
  rw [NegationState.mk.injEq]
  exact ⟨h, hnegatedAt, hpending⟩

/-- **Both readings mark the same terms.** -/
theorem markLexemes_eq_occurrencesFrom {s : NegationState} {k : GroupStack} (h : s.Follows k)
    (ls : List Lexeme) : markLexemes s ls = occurrencesFrom k ls := by
  induction ls generalizing s k with
  | nil => rfl
  | cons l ls ih =>
    rw [occurrencesFrom, ← ih (h.step l), ← h.negates]
    cases hterm : l.term? with
    | none => exact markLexemes_cons_none ls hterm
    | some text => exact markLexemes_cons_some ls hterm

/-! ## Listing by the first occurrence -/

/-- The occurrence counts: every one does, or every one that is not negated. -/
def MarkedTerm.counts (excludeNegated : Bool) (m : MarkedTerm) : Bool :=
  !(excludeNegated && m.negated)

/-- How many occurrences stand in front of the first one of a text that counts. -/
def firstCounting (excludeNegated : Bool) (found : List MarkedTerm) (text : Text) : Nat :=
  found.findIdx fun m => m.counts excludeNegated && m.text == text

/-- The texts of the occurrences that count, ordered by the first such occurrence. -/
structure ListsFirst (excludeNegated : Bool) (found : List MarkedTerm) (texts : List Text) :
    Prop where
  mem_iff : ∀ text, text ∈ texts ↔ ∃ m ∈ found, m.counts excludeNegated = true ∧ m.text = text
  ordered : texts.Pairwise fun a b =>
    firstCounting excludeNegated found a < firstCounting excludeNegated found b

section Listing

variable {excludeNegated : Bool} {found : List MarkedTerm} {texts : List Text}

/-- The texts that stay are those of the occurrences that count. -/
theorem keptTerms_eq_map : keptTerms excludeNegated found
    = (found.filter (MarkedTerm.counts excludeNegated)).map (·.text) := rfl

/-- An occurrence that does not count makes the others come one later. -/
theorem firstCounting_cons_of_not {m : MarkedTerm} (h : m.counts excludeNegated = false)
    (text : Text) :
    firstCounting excludeNegated (m :: found) text
      = firstCounting excludeNegated found text + 1 := by
  rw [firstCounting, List.findIdx_cons, h]
  rfl

/-- The first occurrence of its text. -/
theorem firstCounting_cons_self {m : MarkedTerm} (h : m.counts excludeNegated = true) :
    firstCounting excludeNegated (m :: found) m.text = 0 := by
  rw [firstCounting, List.findIdx_cons, h, beq_self_eq_true]
  rfl

/-- An occurrence makes the other texts come one later. -/
theorem firstCounting_cons_of_ne {m : MarkedTerm} {text : Text} (h : m.text ≠ text) :
    firstCounting excludeNegated (m :: found) text
      = firstCounting excludeNegated found text + 1 := by
  rw [firstCounting, List.findIdx_cons, beq_false_of_ne h, Bool.and_false]
  rfl

/-- **Removing duplicates lists the occurrences by the first.** -/
theorem listsFirst_eraseDups (excludeNegated : Bool) (found : List MarkedTerm) :
    ListsFirst excludeNegated found (keptTerms excludeNegated found).eraseDups where
  mem_iff text := by
    rw [List.mem_eraseDups, keptTerms_eq_map, List.mem_map]
    simp only [List.mem_filter, and_assoc]
  ordered := by
    induction found with
    | nil => exact List.Pairwise.nil
    | cons m found ih =>
      by_cases hm : m.counts excludeNegated = true
      · have hkept : keptTerms excludeNegated (m :: found)
            = m.text :: keptTerms excludeNegated found := by
          rw [keptTerms_eq_map, List.filter_cons_of_pos hm, List.map_cons, keptTerms_eq_map]
        have hother : ∀ b ∈ (keptTerms excludeNegated found).eraseDups.filter (!· == m.text),
            m.text ≠ b := fun b hb => Ne.symm (by simpa using List.of_mem_filter hb)
        rw [hkept, List.eraseDups_cons, eraseDups_filter]
        refine List.pairwise_cons.mpr ⟨fun b hb => ?_, ?_⟩
        · rw [firstCounting_cons_self hm, firstCounting_cons_of_ne (hother b hb)]
          exact Nat.succ_pos _
        · -- the texts behind it are others, so their order is the one they had
          refine (ih.filter _).imp_of_mem fun {a b} ha hb hab => ?_
          rw [firstCounting_cons_of_ne (hother a ha), firstCounting_cons_of_ne (hother b hb)]
          exact Nat.succ_lt_succ hab
      · have hkept : keptTerms excludeNegated (m :: found) = keptTerms excludeNegated found := by
          rw [keptTerms_eq_map, List.filter_cons_of_neg hm, keptTerms_eq_map]
        rw [Bool.not_eq_true] at hm
        rw [hkept]
        refine ih.imp fun {a b} hab => ?_
        rw [firstCounting_cons_of_not hm, firstCounting_cons_of_not hm]
        exact Nat.succ_lt_succ hab

/-- The texts are listed once each. -/
theorem ListsFirst.nodup (h : ListsFirst excludeNegated found texts) : texts.Nodup :=
  h.ordered.imp fun hab heq => by rw [heq] at hab; exact Nat.lt_irrefl _ hab

/-- **The occurrences are listed in one way.** -/
theorem ListsFirst.unique {texts' : List Text} (h : ListsFirst excludeNegated found texts)
    (h' : ListsFirst excludeNegated found texts') : texts = texts' := by
  have hperm : texts.Perm texts' := by
    rw [List.perm_ext_iff_of_nodup h.nodup h'.nodup]
    exact fun text => (h.mem_iff text).trans (h'.mem_iff text).symm
  exact hperm.eq_of_pairwise (fun a b _ _ hab hba => absurd hab (Nat.lt_asymm hba))
    h.ordered h'.ordered

end Listing

/-! ## The terms of a content -/

/-- The terms of a content list its occurrences by the first. -/
theorem listsFirst_terms (content : Text) (excludeNegated : Bool) :
    ListsFirst excludeNegated (occurrences content)
      (extractTerms content excludeNegated).terms := by
  rw [terms_extractTerms, occurrences, ← markLexemes_eq_occurrencesFrom NegationState.follows_start]
  exact listsFirst_eraseDups _ _

/-- What counts without the negated occurrences counts with them. -/
theorem terms_subset_terms (content : Text) :
    (extractTerms content true).terms ⊆ (extractTerms content false).terms := by
  intro text htext
  rw [(listsFirst_terms content true).mem_iff] at htext
  obtain ⟨m, hm, -, hsame⟩ := htext
  exact ((listsFirst_terms content false).mem_iff text).mpr ⟨m, hm, rfl, hsame⟩

/-- **Negation is read as with a stack.**  With negated terms excluded, the terms of a content are
the texts with an occurrence that is not negated, ordered by the first such occurrence; otherwise
they are all its texts, ordered by the first occurrence.  So excluding negated terms takes terms
away and adds none, and both modes report the same operators. -/
theorem listsFirst_occurrences_iff (content : Text) :
    (∀ (excludeNegated : Bool) (texts : List Text),
        ListsFirst excludeNegated (occurrences content) texts
          ↔ texts = (extractTerms content excludeNegated).terms) ∧
      (extractTerms content true).terms ⊆ (extractTerms content false).terms ∧
      (extractTerms content true).operators = (extractTerms content false).operators := by
  refine ⟨fun excludeNegated texts => ⟨fun h => ?_, ?_⟩, terms_subset_terms content, rfl⟩
  · exact h.unique (listsFirst_terms content excludeNegated)
  · rintro rfl
    exact listsFirst_terms content excludeNegated

/-- A closing parenthesis that closes nothing, a negated group inside another, an empty phrase
between NOT and a term, and a negated group that stays open around a term that counts elsewhere. -/
example : (extractTerms "a) NOT (b (NOT (c) d) e) f NOT \"\" g NOT (a h".toList true).terms
    = [['a'], ['f'], ['g']] := by
  decide +kernel

end CandidateSearch

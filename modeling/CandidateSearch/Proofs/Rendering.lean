import CandidateSearch.Proofs.Appending
import CandidateSearch.Query.Validation

/-!
# Reading back what is written

A query can be written from its clauses: a list of terms as phrases in parentheses, a time scope as
a word or two, with a comma between the clauses.  Parsing gives the clauses back, whatever their
order and whatever the terms hold besides quotes and markers.

* `extractTerms_phrases`: the terms of a list that is written as phrases;
* `splitGroup_phrases`, `remainders_phrases`: no group ends inside a written list, and no marker
  begins there;
* `remainders_renderQuery`: what follows the marker of a clause that is written;
* `terms_parse_renderQuery`, `scope_parse_renderQuery`: what is written is read back.
-/

namespace CandidateSearch

/-! ## Texts with separators -/

section Intercalate

variable {sep : Text}

/-- Behind the first of some texts, each stands with a separator in front. -/
theorem intercalate_cons (t : Text) (ts : List Text) :
    sep.intercalate (t :: ts) = t ++ ts.flatMap (sep ++ ·) := by
  induction ts generalizing t with
  | nil => simp [List.intercalate]
  | cons u ts ih =>
    rw [List.flatMap_cons, List.append_assoc, ← ih, List.intercalate, List.intercalate,
      List.intersperse_cons_cons, List.flatten_cons, List.flatten_cons]

/-- **What holds of the texts and of the separator holds of the whole**, if it is kept by putting one
text behind another. -/
theorem intercalate_induction {motive : Text → Prop} {ts : List Text} (nil : motive [])
    (append : ∀ a b, motive a → motive b → motive (a ++ b)) (hsep : motive sep)
    (hts : ∀ t ∈ ts, motive t) : motive (sep.intercalate ts) := by
  cases ts with
  | nil => exact nil
  | cons t ts =>
    rw [intercalate_cons]
    refine append t _ (hts t List.mem_cons_self) ?_
    have htail : ∀ u ∈ ts, motive u := fun u hu => hts u (List.mem_cons_of_mem t hu)
    clear hts
    induction ts with
    | nil => exact nil
    | cons u ts ih =>
      rw [List.flatMap_cons]
      refine append _ _ (append sep u hsep (htail u List.mem_cons_self)) ?_
      exact ih fun v hv => htail v (List.mem_cons_of_mem u hv)

end Intercalate

/-! ## Written clauses -/

/-- A term in quotes. -/
def quotedTerm (t : Text) : Text := '"' :: (t ++ ['"'])

/-- Terms as phrases with OR between them. -/
def phrases (ts : List Text) : Text := " OR ".toList.intercalate (ts.map quotedTerm)

/-- **What holds of OR and of each term in quotes holds of the list**, if it is kept by putting one
text behind another. -/
theorem phrases_induction {motive : Text → Prop} {ts : List Text} (nil : motive [])
    (append : ∀ a b, motive a → motive b → motive (a ++ b)) (hor : motive " OR ".toList)
    (hts : ∀ t ∈ ts, motive (quotedTerm t)) : motive (phrases ts) := by
  refine intercalate_induction nil append hor ?_
  rintro p hp
  obtain ⟨t, ht, rfl⟩ := List.mem_map.mp hp
  exact hts t ht

/-- A term in quotes in front of a text. -/
theorem quotedTerm_append (t rest : Text) : quotedTerm t ++ rest = '"' :: (t ++ '"' :: rest) := by
  rw [quotedTerm, List.cons_append, List.append_assoc, List.singleton_append]

/-- A time scope in words. -/
def TimeScope.phrase : TimeScope → Text
  | .current => "Current".toList
  | .past => "Past".toList
  | .both => "Current or past".toList

/-- A clause to be written: the terms of a field, or a time scope. -/
inductive WrittenClause where
  | list (f : ListField) (terms : List Text)
  | scope (f : ScopeField) (scope : TimeScope)
  deriving DecidableEq, Repr

namespace WrittenClause

/-- The field of the clause. -/
def field : WrittenClause → Field
  | .list f _ => .list f
  | .scope f _ => .scope f

/-- What stands behind the marker of the clause. -/
def value : WrittenClause → Text
  | .list _ ts => inParentheses (phrases ts)
  | .scope _ s => s.phrase

/-- The clause as it is written. -/
def text (c : WrittenClause) : Text := c.field.marker ++ c.value

end WrittenClause

/-- The query that consists of some clauses. -/
def renderQuery (cs : List WrittenClause) : Text :=
  ", ".toList.intercalate (cs.map WrittenClause.text)

/-- Terms that can be written: some, pairwise different, each well formed and without markers. -/
structure Writable (ts : List Text) : Prop where
  /-- There is a term. -/
  ne_nil : ts ≠ []
  /-- No term occurs twice. -/
  nodup : ts.Nodup
  /-- Each term is not empty, is trimmed and holds no quote. -/
  isTerm : ∀ t ∈ ts, IsTerm t
  /-- No term holds the marker of a field. -/
  unmarked : ∀ t ∈ ts, ∀ f : Field, findMarker t f.label = none

instance (ts : List Text) : Decidable (Writable ts) :=
  decidable_of_iff
    (ts ≠ [] ∧ ts.Nodup ∧ (∀ t ∈ ts, IsTerm t) ∧
      ∀ t ∈ ts, ∀ f ∈ Field.all, findMarker t f.label = none)
    ⟨fun ⟨hne, hnodup, hterm, hunmarked⟩ =>
        ⟨hne, hnodup, hterm, fun t ht f => hunmarked t ht f f.mem_all⟩,
      fun h => ⟨h.ne_nil, h.nodup, h.isTerm, fun t ht f _ => h.unmarked t ht f⟩⟩

/-- The terms of a clause can be written. -/
def WrittenClause.Writable : WrittenClause → Prop
  | .list _ ts => CandidateSearch.Writable ts
  | .scope _ _ => True

instance : (c : WrittenClause) → Decidable c.Writable
  | .list _ ts => inferInstanceAs (Decidable (Writable ts))
  | .scope _ _ => inferInstanceAs (Decidable True)

/-- The terms of a clause hold neither plus signs nor parentheses. -/
def WrittenClause.Plain : WrittenClause → Prop
  | .list _ ts => ∀ t ∈ ts, '+' ∉ t ∧ '(' ∉ t ∧ ')' ∉ t
  | .scope _ _ => True

instance : (c : WrittenClause) → Decidable c.Plain
  | .list _ ts => inferInstanceAs (Decidable (∀ t ∈ ts, '+' ∉ t ∧ '(' ∉ t ∧ ')' ∉ t))
  | .scope _ _ => inferInstanceAs (Decidable True)

/-! ## The terms of a written list -/

/-- The phrases behind the first one, each with OR in front. -/
theorem lexemes_more_phrases {ts : List Text} (hts : ∀ t ∈ ts, '"' ∉ t) :
    lexemes ((ts.map quotedTerm).flatMap (" OR ".toList ++ ·))
      = ts.flatMap fun t => [.operator .or, .quoted t] := by
  induction ts with
  | nil => exact lexemes_nil
  | cons t ts ih =>
    have ht : '"' ∉ t := hts t List.mem_cons_self
    have htext : ((t :: ts).map quotedTerm).flatMap (" OR ".toList ++ ·)
        = ' ' :: (Operator.or.name ++ ' ' :: '"' :: (t ++ '"' ::
            (ts.map quotedTerm).flatMap (" OR ".toList ++ ·))) := by
      simp [quotedTerm, Operator.name]
    rw [htext, lexemes_operator, lexemes_phrase _ ht,
      ih fun u hu => hts u (List.mem_cons_of_mem t hu), List.flatMap_cons]
    rfl

/-- A list written as phrases is read as its phrases. -/
theorem lexemes_phrases {t : Text} {ts : List Text} (hts : ∀ u ∈ t :: ts, '"' ∉ u) :
    lexemes (phrases (t :: ts)) = .quoted t :: ts.flatMap fun u => [.operator .or, .quoted u] := by
  have htext : phrases (t :: ts)
      = '"' :: (t ++ '"' :: (ts.map quotedTerm).flatMap (" OR ".toList ++ ·)) := by
    rw [phrases, List.map_cons, intercalate_cons, quotedTerm]
    simp
  rw [htext, lexemes_phrase _ (hts t List.mem_cons_self),
    lexemes_more_phrases fun u hu => hts u (List.mem_cons_of_mem t hu)]

/-- A phrase of a term is read as that term. -/
theorem term?_quoted {t : Text} (ht : IsTerm t) : (Lexeme.quoted t).term? = some t := by
  obtain ⟨hne, htrim, -⟩ := ht
  rw [Lexeme.term?, htrim, if_neg (by simpa using hne)]

/-- OR negates nothing. -/
theorem markLexemes_more_phrases {ts : List Text} (hts : ∀ t ∈ ts, IsTerm t) :
    markLexemes .start (ts.flatMap fun t => [.operator .or, .quoted t])
      = ts.map fun t => ⟨t, false⟩ := by
  induction ts with
  | nil => rfl
  | cons t ts ih =>
    have ht : (Lexeme.quoted t).term? = some t := term?_quoted (hts t List.mem_cons_self)
    have hrest := ih fun u hu => hts u (List.mem_cons_of_mem t hu)
    rw [List.flatMap_cons, List.cons_append, markLexemes_cons_none _ rfl, List.cons_append,
      markLexemes_cons_some _ ht, List.nil_append, List.map_cons]
    exact congrArg _ hrest

/-- **The terms of a list that is written as phrases**, in order, whether or not negated terms are
excluded. -/
theorem extractTerms_phrases {ts : List Text} (hts : Writable ts) (excludeNegated : Bool) :
    (extractTerms (phrases ts) excludeNegated).terms = ts := by
  obtain ⟨t, us, rfl⟩ := List.exists_cons_of_ne_nil hts.ne_nil
  have ht : (Lexeme.quoted t).term? = some t := term?_quoted (hts.isTerm t List.mem_cons_self)
  have hmarked : markLexemes .start (lexemes (phrases (t :: us)))
      = (t :: us).map fun u => ⟨u, false⟩ := by
    rw [lexemes_phrases fun u hu => (hts.isTerm u hu).2.2, markLexemes_cons_some _ ht, List.map_cons]
    exact congrArg _ (markLexemes_more_phrases fun u hu => hts.isTerm u (List.mem_cons_of_mem t hu))
  have hkept : keptTerms excludeNegated ((t :: us).map fun u => ⟨u, false⟩) = t :: us := by
    rw [keptTerms, List.filter_eq_self.mpr, List.map_map]
    · exact List.map_id' _
    · intro m hm
      obtain ⟨u, -, rfl⟩ := List.mem_map.mp hm
      simp
  rw [terms_extractTerms, hmarked, hkept, eraseDups_of_nodup hts.nodup]

/-! ## Groups and markers around a written list -/

/-- Two texts in front of a split are one text in front of it. -/
theorem inFront_inFront (a b : Text) : inFront a ∘ inFront b = inFront (a ++ b) := by
  funext parts
  show (a ++ (b ++ parts.1), parts.2) = (a ++ b ++ parts.1, parts.2)
  rw [List.append_assoc]

/-- **No group ends inside a list that is written as phrases**, whatever parentheses the terms
hold. -/
theorem splitGroup_phrases {ts : List Text} {depth : Int} (hdepth : 1 ≤ depth)
    (hts : ∀ t ∈ ts, '"' ∉ t) :
    ∀ rest, splitGroup depth (phrases ts ++ rest)
      = (splitGroup depth rest).map (inFront (phrases ts)) := by
  refine phrases_induction (motive := fun x => ∀ rest, splitGroup depth (x ++ rest)
    = (splitGroup depth rest).map (inFront x)) ?_ ?_ ?_ ?_
  · intro rest
    have hid : inFront [] = id := rfl
    rw [List.nil_append, hid, Option.map_id_apply]
  · intro a b ha hb rest
    rw [List.append_assoc, ha, hb, Option.map_map, inFront_inFront]
  · intro rest
    exact splitGroup_append_plain rest hdepth (Text.forall_mem_of_all (by decide))
  · intro t ht rest
    rw [quotedTerm_append, splitGroup_phrase depth rest (hts t ht), quotedTerm]

/-- **No marker begins inside a list that is written as phrases**, or reaches out of it, if the terms
hold none. -/
theorem remainders_phrases {ts : List Text} {label : Text} (hlabel : IsLabel label)
    (hts : ∀ t ∈ ts, remainders label t = []) :
    ∀ rest, remainders label (phrases ts ++ rest) = remainders label rest := by
  refine phrases_induction (motive := fun x => ∀ rest,
    remainders label (x ++ rest) = remainders label rest) ?_ ?_ ?_ ?_
  · intro rest
    rfl
  · intro a b ha hb rest
    rw [List.append_assoc, ha, hb]
  · intro rest
    exact remainders_append_of_not_mem_plus rest (by decide)
  · intro t ht rest
    rw [quotedTerm_append, remainders_cons (afterLabel?_cons_ne _ (by decide)),
      remainders_append hlabel rfl, hts t ht, List.map_nil, List.nil_append]

/-- The words for a time scope hold no character that ends a scalar or begins a marker, and are
trimmed. -/
theorem TimeScope.phrase_plain (s : TimeScope) :
    (∀ c ∈ s.phrase, c ≠ ',' ∧ c ≠ '+') ∧ ∃ c t, s.phrase = c :: t ∧ isBlank c = false := by
  cases s
  · exact ⟨Text.forall_mem_of_all (by decide), 'C', "urrent".toList, rfl, rfl⟩
  · exact ⟨Text.forall_mem_of_all (by decide), 'P', "ast".toList, rfl, rfl⟩
  · exact ⟨Text.forall_mem_of_all (by decide), 'C', "urrent or past".toList, rfl, rfl⟩

namespace WrittenClause

/-- No marker begins inside the value of a clause that can be written. -/
theorem remainders_value {c : WrittenClause} (hc : c.Writable) (g : Field) (rest : Text) :
    remainders g.label (c.value ++ rest) = remainders g.label rest := by
  cases c with
  | list f ts =>
    have hts : ∀ t ∈ ts, remainders g.label t = [] := fun t ht =>
      findMarker_eq_none_iff.mp (hc.unmarked t ht g)
    rw [value, inParentheses_append, remainders_cons (afterLabel?_cons_ne _ (by decide)),
      remainders_phrases (isLabel_label g) hts, remainders_cons (afterLabel?_cons_ne _ (by decide))]
  | scope f s =>
    exact remainders_append_of_not_mem_plus rest fun h => (s.phrase_plain.1 _ h).2 rfl

/-- The value of a clause does not begin with a blank. -/
theorem trimStart_value (c : WrittenClause) (rest : Text) :
    Text.trimStart (c.value ++ rest) = c.value ++ rest := by
  cases c with
  | list f ts => exact Text.trimStart_cons _ (by decide)
  | scope f s =>
    obtain ⟨-, c, t, hs, hc⟩ := s.phrase_plain
    rw [value, hs, List.cons_append, Text.trimStart_cons _ hc]

end WrittenClause

/-! ## What follows a written marker -/

/-- Clauses that follow another one, each with a comma and a blank in front. -/
def following (cs : List WrittenClause) : Text := cs.flatMap fun c => appendix c.field c.value

/-- The first clause of a query and those that follow it. -/
theorem renderQuery_cons (c : WrittenClause) (cs : List WrittenClause) :
    renderQuery (c :: cs) = c.field.marker ++ (c.value ++ following cs) := by
  have hcs : (cs.map WrittenClause.text).flatMap (", ".toList ++ ·) = following cs := by
    rw [List.flatMap_map]
    rfl
  rw [renderQuery, List.map_cons, intercalate_cons, hcs, WrittenClause.text, List.append_assoc]

/-- One more clause that follows. -/
theorem following_cons (c : WrittenClause) (cs : List WrittenClause) :
    following (c :: cs) = ", ".toList ++ renderQuery (c :: cs) := by
  rw [renderQuery_cons, following, List.flatMap_cons, ← following, appendix]
  show ',' :: ' ' :: (c.field.marker ++ c.value) ++ following cs
    = ',' :: ' ' :: (c.field.marker ++ (c.value ++ following cs))
  rw [List.cons_append, List.cons_append, List.append_assoc]

/-- What follows a clause is nothing or begins with a clause. -/
theorem following_cases (cs : List WrittenClause) : following cs = [] ∨ BeginsClause (following cs) := by
  cases cs with
  | nil => exact Or.inl rfl
  | cons c cs => exact Or.inr (beginsClause_appendix c.field c.value _)

/-- A comma in front of a query holds no marker. -/
theorem remainders_following (g : Field) (cs : List WrittenClause) :
    remainders g.label (following cs) = remainders g.label (renderQuery cs) := by
  cases cs with
  | nil => rfl
  | cons c cs =>
    rw [following_cons, remainders_append_of_not_mem_plus _ (by decide)]

/-- **A field without a written clause has no marker.** -/
theorem remainders_renderQuery_of_not_mem {cs : List WrittenClause} (hcs : ∀ c ∈ cs, c.Writable)
    {g : Field} (hg : g ∉ cs.map WrittenClause.field) :
    remainders g.label (renderQuery cs) = [] := by
  induction cs with
  | nil => exact remainders_nil g.label
  | cons c cs ih =>
    rw [List.map_cons, List.mem_cons, not_or] at hg
    rw [renderQuery_cons, remainders_marker_of_ne hg.1,
      WrittenClause.remainders_value (hcs c List.mem_cons_self), remainders_following,
      ih (fun d hd => hcs d (List.mem_cons_of_mem c hd)) hg.2]

/-- **What follows the marker of a written clause**: its value and the clauses behind, and no second
marker of the same field. -/
theorem remainders_renderQuery {cs : List WrittenClause} (hcs : ∀ c ∈ cs, c.Writable)
    (hfields : (cs.map WrittenClause.field).Nodup) {c : WrittenClause} (hc : c ∈ cs) :
    ∃ behind, remainders c.field.label (renderQuery cs) = [c.value ++ following behind] := by
  induction cs with
  | nil => cases hc
  | cons d cs ih =>
    have hd : d.Writable := hcs d List.mem_cons_self
    have hrest : ∀ e ∈ cs, e.Writable := fun e he => hcs e (List.mem_cons_of_mem d he)
    rw [List.map_cons, List.nodup_cons] at hfields
    rw [renderQuery_cons]
    rcases List.mem_cons.mp hc with rfl | hmem
    · -- the first clause: no other clause has its field
      refine ⟨cs, ?_⟩
      rw [remainders_marker_self, c.trimStart_value, WrittenClause.remainders_value hd,
        remainders_following, remainders_renderQuery_of_not_mem hrest hfields.1]
    · -- a later clause: the first one has another field and is passed over
      obtain ⟨behind, hbehind⟩ := ih hrest hfields.2 hmem
      have hne : c.field ≠ d.field := by
        intro heq
        exact hfields.1 (heq ▸ List.mem_map_of_mem hmem)
      refine ⟨behind, ?_⟩
      rw [remainders_marker_of_ne hne, WrittenClause.remainders_value hd, remainders_following,
        hbehind]

/-! ## Reading what is written -/

/-- **The content of a written list** says what its phrases say.  For keywords a comma may trail the
group. -/
theorem contentOf_written (f : ListField) {ts : List Text} (hts : Writable ts)
    (behind : List WrittenClause) :
    ∃ content, contentOf f.label ((WrittenClause.list f ts).value ++ following behind) = some content ∧
      ∀ excludeNegated,
        extractTerms content excludeNegated = extractTerms (phrases ts) excludeNegated := by
  have hsplit : splitGroup 1 (phrases ts ++ ')' :: following behind)
      = some (phrases ts, following behind) := by
    rw [splitGroup_phrases (Int.le_refl 1) fun t ht => (hts.isTerm t ht).2.2, splitGroup_last,
      Option.map_some, inFront, List.append_nil]
  rw [WrittenClause.value, inParentheses_append, contentOf_group f hsplit]
  refine ⟨_, rfl, fun excludeNegated => ?_⟩
  split_ifs with hf
  · -- keywords: the comma of the next clause trails the group
    rcases following_cases behind with hnil | hbegins
    · rw [hnil]
      rfl
    · have htail := hbegins.take_nextMarker []
      rw [List.nil_append, if_neg (by simp)] at htail
      obtain ⟨z, hz, hjoin⟩ := joinTrailing_append_comma (phrases ts) []
      rw [htail, hjoin, extractTerms_append_separators _ hz]
      rfl
  · rfl

/-- The value of a written time scope ends where the clause ends. -/
theorem scalarOf_written (f : ScopeField) (s : TimeScope) (behind : List WrittenClause) :
    scalarOf ((WrittenClause.scope f s).value ++ following behind) = scalarOf s.phrase := by
  rw [WrittenClause.value]
  rcases following_cases behind with hnil | hbegins
  · rw [hnil, List.append_nil]
  · exact hbegins.scalarOf_append s.phrase

section Written

variable {cs : List WrittenClause} (hcs : ∀ c ∈ cs, c.Writable)

include hcs

/-- The contents of a field that is written once. -/
theorem clauseContents_renderQuery (hfields : (cs.map WrittenClause.field).Nodup) {f : ListField}
    {ts : List Text} (hc : .list f ts ∈ cs) :
    ∃ content, clauseContents (renderQuery cs) f.label = [some content] ∧
      ∀ excludeNegated, (extractTerms content excludeNegated).terms = ts := by
  obtain ⟨behind, hbehind⟩ := remainders_renderQuery hcs hfields hc
  obtain ⟨content, hcontent, hterms⟩ := contentOf_written f (hcs _ hc) behind
  refine ⟨content, ?_, fun excludeNegated => ?_⟩
  · rw [WrittenClause.field, Field.label] at hbehind
    rw [clauseContents_eq_map, hbehind, List.map_singleton, hcontent]
  · rw [hterms, extractTerms_phrases (hcs _ hc)]

/-- A field that is not written has no contents. -/
theorem clauseContents_renderQuery_of_absent {f : ListField} (hf : ∀ ts, .list f ts ∉ cs) :
    clauseContents (renderQuery cs) f.label = [] := by
  have hmem : Field.list f ∉ cs.map WrittenClause.field := by
    intro h
    obtain ⟨c, hc, hfield⟩ := List.mem_map.mp h
    cases c with
    | list g ts => exact hf ts (Field.list.inj hfield ▸ hc)
    | scope g s => cases hfield
  have hnone := remainders_renderQuery_of_not_mem hcs hmem
  rw [Field.label] at hnone
  rw [clauseContents_eq_map, hnone, List.map_nil]

/-- The scalar of a time scope that is written once. -/
theorem extractScalar_renderQuery (hfields : (cs.map WrittenClause.field).Nodup) {f : ScopeField}
    {s : TimeScope} (hc : .scope f s ∈ cs) :
    extractScalar (renderQuery cs) f.label = some (scalarOf s.phrase) := by
  obtain ⟨behind, hbehind⟩ := remainders_renderQuery hcs hfields hc
  rw [WrittenClause.field, Field.label] at hbehind
  have hne : (!(scalarOf s.phrase).isEmpty) = true := by
    cases s <;> decide +kernel
  rw [extractScalar_eq_find?, hbehind, List.map_singleton, scalarOf_written, List.find?_singleton,
    if_pos hne]

/-- A time scope that is not written has no scalar. -/
theorem extractScalar_renderQuery_of_absent {f : ScopeField} (hf : ∀ s, .scope f s ∉ cs) :
    extractScalar (renderQuery cs) f.label = none := by
  have hmem : Field.scope f ∉ cs.map WrittenClause.field := by
    intro h
    obtain ⟨c, hc, hfield⟩ := List.mem_map.mp h
    cases c with
    | list g ts => cases hfield
    | scope g s => exact hf s (Field.scope.inj hfield ▸ hc)
  have hnone := remainders_renderQuery_of_not_mem hcs hmem
  rw [Field.label] at hnone
  rw [extractScalar_eq_find?, hnone]
  rfl

/-- **The terms of a written list are read back**, in order. -/
theorem terms_parse_renderQuery (hfields : (cs.map WrittenClause.field).Nodup) {f : ListField}
    {ts : List Text} (hc : .list f ts ∈ cs) (excludeNegated : Bool) :
    (parse (renderQuery cs) excludeNegated).terms.get f = ts := by
  obtain ⟨content, hcontents, hterms⟩ := clauseContents_renderQuery hcs hfields hc
  rw [terms_parse, readField_eq_readContents, ← clauseContents_eq_map, hcontents,
    readContents_singleton, hterms]

/-- A field that is not written has no terms. -/
theorem terms_parse_renderQuery_of_absent {f : ListField} (hf : ∀ ts, .list f ts ∉ cs)
    (excludeNegated : Bool) : (parse (renderQuery cs) excludeNegated).terms.get f = [] := by
  rw [terms_parse, readField_eq_readContents, ← clauseContents_eq_map,
    clauseContents_renderQuery_of_absent hcs hf]
  rfl

/-- **A written time scope is read back.** -/
theorem scope_parse_renderQuery (hfields : (cs.map WrittenClause.field).Nodup) {f : ScopeField}
    {s : TimeScope} (hc : .scope f s ∈ cs) (excludeNegated : Bool) :
    (parse (renderQuery cs) excludeNegated).scope f = s := by
  rw [scope_parse, extractTimeScope, extractScalar_renderQuery hcs hfields hc]
  cases s <;> decide +kernel

/-- A time scope that is not written is both. -/
theorem scope_parse_renderQuery_of_absent {f : ScopeField} (hf : ∀ s, .scope f s ∉ cs)
    (excludeNegated : Bool) : (parse (renderQuery cs) excludeNegated).scope f = .both := by
  rw [scope_parse, extractTimeScope, extractScalar_renderQuery_of_absent hcs hf]
  rfl

end Written

end CandidateSearch

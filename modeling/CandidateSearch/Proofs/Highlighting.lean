import CandidateSearch.Proofs.Markers
import CandidateSearch.Proofs.Markup
import CandidateSearch.Query.Highlight

/-!
# What highlighting writes

Highlighting cuts the query into pieces, escapes each of them, and puts two tags around those that
are highlighted.  Nothing else is written, so a reader who deletes the tags and decodes the entities
has the query again, and whatever the query or the names of the classes hold, no other tag appears.

* `leadingMatch?_eq_some`: a highlighted piece stands where the text begins and is not empty;
* `segment_induction`: induction along the pieces of a query;
* `flatMap_text_segments`: the pieces put together are the query;
* `withoutTags_flatMap_toHtml`, `tagsOf_flatMap_toHtml`: the two readings of what is written;
* `highlight_lossless`: all of it together.
-/

namespace CandidateSearch

/-! ## Highlighted pieces -/

/-- A field marker, from its plus sign to its colon. -/
theorem leadingMarker?_eq_some {t text : Text} (h : leadingMarker? t = some text) :
    ∃ l beyond, l ≠ [] ∧ (∀ c ∈ l, endsLabel c = false) ∧ text = '+' :: (l ++ [':']) ∧
      t = text ++ beyond := by
  obtain ⟨beyond, hbeyond, rfl⟩ := Option.map_eq_some_iff.mp h
  obtain ⟨l, rfl, hne, hl⟩ := afterMarker?_eq_some_iff.mp hbeyond
  have hsplit : '+' :: (l ++ ':' :: beyond) = ('+' :: (l ++ [':'])) ++ beyond := by
    rw [List.cons_append, List.append_assoc, List.singleton_append]
  refine ⟨l, beyond, hne, hl, ?_, ?_⟩
  · rw [hsplit, List.length_append, Nat.add_sub_cancel, List.take_left]
  · rw [hsplit, List.length_append, Nat.add_sub_cancel, List.take_left]

/-- A phrase, its quotes included. -/
theorem leadingPhrase?_eq_some {t text : Text} (h : leadingPhrase? t = some text) :
    ∃ p beyond, p ≠ [] ∧ '"' ∉ p ∧ text = '"' :: (p ++ ['"']) ∧ t = text ++ beyond := by
  unfold leadingPhrase? at h
  split at h
  · next rest =>
    split at h
    · next c inner d beyond htake hdrop =>
      obtain rfl := Option.some.inj h
      have hquote : '"' ∉ c :: inner := by
        rw [← htake]
        intro hmem
        have hne := List.mem_takeWhile_imp hmem
        exact absurd hne (by decide)
      have hend : d = '"' := by
        have hhead := List.head?_dropWhile_not (· != '"') rest
        rw [hdrop] at hhead
        simpa using hhead
      refine ⟨c :: inner, beyond, List.cons_ne_nil c inner, hquote, rfl, ?_⟩
      rw [← List.takeWhile_append_dropWhile (p := (· != '"')) (l := rest), htake, hdrop, hend]
      simp
    · cases h
  · cases h

/-- An operator in capitals. -/
theorem leadingOperator?_eq_some {afterWord : Bool} {t text : Text}
    (h : leadingOperator? afterWord t = some text) :
    ∃ op : Operator, ∃ beyond, text = op.name ∧ t = text ++ beyond := by
  unfold leadingOperator? at h
  split_ifs at h
  have hmem := List.mem_of_find?_eq_some h
  have hfound := List.find?_some h
  rw [Bool.and_eq_true, List.isPrefixOf_iff_prefix] at hfound
  obtain ⟨beyond, hbeyond⟩ := hfound.1
  obtain ⟨op, -, hop⟩ := List.mem_map.mp hmem
  exact ⟨op, beyond, hop.symm, hbeyond.symm⟩

/-- A highlighted piece is a marker, a phrase or an operator, as its kind says. -/
theorem leadingMatch?_cases {afterWord : Bool} {t text : Text} {kind : Highlight}
    (h : leadingMatch? afterWord t = some (kind, text)) :
    kind = .field ∧ leadingMarker? t = some text ∨
      kind = .phrase ∧ leadingPhrase? t = some text ∨
      kind = .operator ∧ leadingOperator? afterWord t = some text := by
  unfold leadingMatch? at h
  cases hmarker : leadingMarker? t with
  | some m =>
    rw [hmarker] at h
    cases h
    exact Or.inl ⟨rfl, rfl⟩
  | none =>
    cases hphrase : leadingPhrase? t with
    | some p =>
      rw [hmarker, hphrase] at h
      cases h
      exact Or.inr (Or.inl ⟨rfl, rfl⟩)
    | none =>
      rw [hmarker, hphrase] at h
      obtain ⟨w, hw, hpair⟩ := Option.map_eq_some_iff.mp h
      cases hpair
      exact Or.inr (Or.inr ⟨rfl, hw⟩)

/-- **A highlighted piece stands where the text begins**, and is not empty. -/
theorem leadingMatch?_eq_some {afterWord : Bool} {t text : Text} {kind : Highlight}
    (h : leadingMatch? afterWord t = some (kind, text)) :
    text ≠ [] ∧ ∃ beyond, t = text ++ beyond := by
  rcases leadingMatch?_cases h with ⟨-, hmarker⟩ | ⟨-, hphrase⟩ | ⟨-, hoperator⟩
  · obtain ⟨l, beyond, -, -, rfl, ht⟩ := leadingMarker?_eq_some hmarker
    exact ⟨List.cons_ne_nil _ _, beyond, ht⟩
  · obtain ⟨p, beyond, -, -, rfl, ht⟩ := leadingPhrase?_eq_some hphrase
    exact ⟨List.cons_ne_nil _ _, beyond, ht⟩
  · obtain ⟨op, beyond, rfl, ht⟩ := leadingOperator?_eq_some hoperator
    refine ⟨?_, beyond, ht⟩
    cases op <;> exact List.cons_ne_nil _ _

/-! ## Pieces of a text -/

section Pieces

variable (afterWord : Bool) {c : Char} {kind : Highlight} {text : Text} (rest : Text)

theorem segmentsFrom_nil : segmentsFrom afterWord [] = [] := by
  rw [segmentsFrom]

/-- A highlighted piece in front. -/
theorem segmentsFrom_marked (h : leadingMatch? afterWord (text ++ rest) = some (kind, text)) :
    segmentsFrom afterWord (text ++ rest)
      = .marked kind text :: segmentsFrom (endsWord text) rest := by
  obtain ⟨hne, -⟩ := leadingMatch?_eq_some h
  obtain ⟨c, t, rfl⟩ := List.exists_cons_of_ne_nil hne
  rw [List.cons_append] at h ⊢
  rw [segmentsFrom, h]
  show _ :: segmentsFrom _ ((t ++ rest).drop t.length) = _
  rw [List.drop_left]

/-- A character in front at which nothing is highlighted. -/
theorem segmentsFrom_plain (h : leadingMatch? afterWord (c :: rest) = none) :
    segmentsFrom afterWord (c :: rest) = .plain c :: segmentsFrom (isWordCharacter c) rest := by
  rw [segmentsFrom, h]

end Pieces

/-- **Induction along the pieces of a text.**  A text is empty, or begins with a highlighted piece, or
with a character at which nothing is highlighted. -/
theorem segment_induction {motive : Bool → Text → Prop} (nil : ∀ b, motive b [])
    (marked : ∀ b kind text rest, leadingMatch? b (text ++ rest) = some (kind, text) →
      motive (endsWord text) rest → motive b (text ++ rest))
    (plain : ∀ b c rest, leadingMatch? b (c :: rest) = none →
      motive (isWordCharacter c) rest → motive b (c :: rest))
    (b : Bool) (t : Text) : motive b t := by
  match t with
  | [] => exact nil b
  | c :: rest =>
    cases h : leadingMatch? b (c :: rest) with
    | none => exact plain b c rest h (segment_induction nil marked plain _ rest)
    | some found =>
      obtain ⟨kind, text⟩ := found
      obtain ⟨hne, beyond, ht⟩ := leadingMatch?_eq_some h
      -- a highlighted piece is not empty, so what follows it is shorter
      have hlen : beyond.length < (c :: rest).length := by
        have hpos := List.length_pos_iff.mpr hne
        rw [ht, List.length_append]
        omega
      rw [ht] at h ⊢
      exact marked b kind text beyond h (segment_induction nil marked plain _ beyond)
  termination_by t.length
  decreasing_by
    · exact Nat.lt_succ_self rest.length
    · exact hlen

/-- The pieces of a text put together are the text. -/
theorem flatMap_text_segmentsFrom (afterWord : Bool) (t : Text) :
    (segmentsFrom afterWord t).flatMap Segment.text = t := by
  induction afterWord, t using segment_induction with
  | nil b => rw [segmentsFrom_nil, List.flatMap_nil]
  | marked b kind text rest h ih =>
    rw [segmentsFrom_marked b rest h, List.flatMap_cons, ih, Segment.text]
  | plain b c rest h ih =>
    rw [segmentsFrom_plain b rest h, List.flatMap_cons, ih, Segment.text, List.singleton_append]

/-- **The pieces of a query put together are the query**: nothing is lost and nothing stands twice. -/
theorem flatMap_text_segments (query : Text) : (segments query).flatMap Segment.text = query :=
  flatMap_text_segmentsFrom false query

/-! ## What is written -/

/-- What stands between the brackets of an opening tag with a class. -/
def spanOfClass (cls : Text) : Text := "span class=\"".toList ++ cls.toHtml ++ ['"']

/-- The tag in front of a highlighted piece, which names its class. -/
def openingTag (cls : Text) : Text := Text.tag (spanOfClass cls)

/-- The tag behind a highlighted piece. -/
def closingTag : Text := Text.tag "/span".toList

/-- The tags around a piece. -/
def Segment.tags (classes : HighlightClasses) : Segment → List Text
  | .plain _ => []
  | .marked kind _ => [openingTag (classes.get kind), closingTag]

/-- A character that is not highlighted is escaped. -/
theorem toHtml_plain (classes : HighlightClasses) (c : Char) :
    (Segment.plain c).toHtml classes = Text.toHtml [c] := by
  show htmlCharacter c = Text.toHtml [c]
  rw [Text.toHtml, List.flatMap_singleton]

/-- A highlighted piece stands between its tags. -/
theorem toHtml_marked (classes : HighlightClasses) (kind : Highlight) (t : Text) :
    (Segment.marked kind t).toHtml classes
      = openingTag (classes.get kind) ++ (t.toHtml ++ closingTag) := by
  have hopen : "<span class=\"".toList = '<' :: "span class=\"".toList := by decide +kernel
  have hclose : "</span>".toList = closingTag := by decide +kernel
  show "<span class=\"".toList ++ (classes.get kind).toHtml ++ ['"', '>'] ++ t.toHtml
    ++ "</span>".toList = _
  have hspan : spanOfClass (classes.get kind)
      = "span class=\"".toList ++ (classes.get kind).toHtml ++ ['"'] := rfl
  rw [hopen, hclose, openingTag, Text.tag, hspan]
  simp only [List.cons_append, List.append_assoc, List.nil_append]

/-- What stands between the brackets of an opening tag holds no bracket, whatever its class. -/
theorem plain_openingTag (cls : Text) : '<' ∉ spanOfClass cls ∧ '>' ∉ spanOfClass cls := by
  have hname : '<' ∉ "span class=\"".toList ∧ '>' ∉ "span class=\"".toList := by decide
  have hspan : spanOfClass cls = "span class=\"".toList ++ cls.toHtml ++ ['"'] := rfl
  simp only [hspan, List.mem_append, not_or]
  refine ⟨⟨⟨hname.1, ?_⟩, by decide⟩, ⟨hname.2, ?_⟩, by decide⟩
  · exact fun h => (Text.plain_of_mem_toHtml h).1 rfl
  · exact fun h => (Text.plain_of_mem_toHtml h).2.1 rfl

/-- What stands between the brackets of the closing tag holds none either. -/
theorem plain_closingTag : '<' ∉ "/span".toList ∧ '>' ∉ "/span".toList := by decide

/-- A text is escaped piece by piece. -/
theorem toHtml_append (a b : Text) : Text.toHtml (a ++ b) = a.toHtml ++ b.toHtml :=
  List.flatMap_append

/-- An escaped text opens no tag. -/
theorem not_mem_toHtml (t : Text) : '<' ∉ t.toHtml := fun h => (Text.plain_of_mem_toHtml h).1 rfl

/-- **What is left when the tags are deleted**: the escaped text of the pieces. -/
theorem withoutTags_flatMap_toHtml (classes : HighlightClasses) (pieces : List Segment) :
    Text.withoutTags (pieces.flatMap (Segment.toHtml classes))
      = Text.toHtml (pieces.flatMap Segment.text) := by
  induction pieces with
  | nil => rw [List.flatMap_nil, List.flatMap_nil, Text.withoutTags, Text.toHtml, List.flatMap_nil]
  | cons piece pieces ih =>
    rw [List.flatMap_cons, List.flatMap_cons, toHtml_append, ← ih]
    cases piece with
    | plain c => rw [toHtml_plain, Text.withoutTags_append _ (not_mem_toHtml _), Segment.text]
    | marked kind t =>
      rw [toHtml_marked, List.append_assoc, openingTag,
        Text.withoutTags_tag _ (plain_openingTag (classes.get kind)).2,
        List.append_assoc, Text.withoutTags_append _ (not_mem_toHtml _), closingTag,
        Text.withoutTags_tag _ plain_closingTag.2, Segment.text]

/-- **What the signs `<` begin**: the tags of the pieces, in order. -/
theorem tagsOf_flatMap_toHtml (classes : HighlightClasses) (pieces : List Segment) :
    Text.tagsOf (pieces.flatMap (Segment.toHtml classes))
      = pieces.flatMap (Segment.tags classes) := by
  induction pieces with
  | nil => rfl
  | cons piece pieces ih =>
    rw [List.flatMap_cons, List.flatMap_cons, ← ih]
    cases piece with
    | plain c =>
      rw [toHtml_plain, Text.tagsOf_append _ (not_mem_toHtml _), Segment.tags, List.nil_append]
    | marked kind t =>
      obtain ⟨hopen, hclose⟩ := plain_openingTag (classes.get kind)
      rw [toHtml_marked, List.append_assoc, openingTag, Text.tagsOf_tag _ hopen hclose,
        List.append_assoc, Text.tagsOf_append _ (not_mem_toHtml _), closingTag,
        Text.tagsOf_tag _ plain_closingTag.1 plain_closingTag.2]
      rfl

/-- The tags of the pieces are two for each highlighted stretch. -/
theorem flatMap_tags_eq (classes : HighlightClasses) (pos : Nat) (pieces : List Segment) :
    pieces.flatMap (Segment.tags classes)
      = (spansFrom pos pieces).flatMap fun s => [openingTag (classes.get s.kind), closingTag] := by
  induction pieces generalizing pos with
  | nil => rfl
  | cons piece pieces ih =>
    cases piece with
    | plain c => exact ih (pos + 1)
    | marked kind t =>
      rw [List.flatMap_cons, spansFrom, List.flatMap_cons, ih (pos + t.length)]
      rfl

/-- The tags that are written are two for each highlighted stretch of the query. -/
theorem tagsOf_highlight (query : Text) (classes : HighlightClasses) :
    Text.tagsOf (highlight query classes)
      = (spansOf query).flatMap fun s => [openingTag (classes.get s.kind), closingTag] := by
  rw [highlight, tagsOf_flatMap_toHtml, flatMap_tags_eq classes 0, spansOf]

/-- **Highlighting is lossless and writes no foreign tag.**  Whatever the query and the names of the
classes hold, every `<` that is written begins an opening tag of one of the classes or the closing
tag; the tags are an opening and a closing one for each highlighted stretch, in turn; and without its
tags, and with its entities decoded, what is written is the query. -/
theorem highlight_lossless (query : Text) (classes : HighlightClasses) :
    (∀ front rest, highlight query classes = front ++ '<' :: rest →
        (∃ kind, openingTag (classes.get kind) <+: '<' :: rest) ∨ closingTag <+: '<' :: rest) ∧
      Text.tagsOf (highlight query classes)
        = ((spansOf query).flatMap fun s => [openingTag (classes.get s.kind), closingTag]) ∧
      Text.decodeEntities (Text.withoutTags (highlight query classes)) = query := by
  refine ⟨?_, tagsOf_highlight query classes, ?_⟩
  · intro front rest hwritten
    -- what the bracket begins is one of the tags that are listed, and it stands there
    have hmem := Text.tagAt_mem_tagsOf front rest
    rw [← hwritten, tagsOf_highlight, List.mem_flatMap] at hmem
    obtain ⟨s, -, hs⟩ := hmem
    rw [List.mem_cons, List.mem_singleton] at hs
    have hprefix := Text.tagAt_isPrefix rest
    rcases hs with hs | hs
    · rw [hs] at hprefix
      exact Or.inl ⟨s.kind, hprefix⟩
    · rw [hs] at hprefix
      exact Or.inr hprefix
  · rw [highlight, withoutTags_flatMap_toHtml, flatMap_text_segments, Text.decodeEntities_toHtml]

/-- A query with markup, and a phrase that holds an entity. -/
def markupQuery : Text := "<b> OR \"&lt;\"".toList

/-- Classes of which one tries to end its tag. -/
def hostileClasses : HighlightClasses := { phrase := "x\"><i".toList }

/-- What is written for the phrase of the markup query, behind its first bracket. -/
def hostilePhrase : Text := "span class=\"x&quot;&gt;&lt;i\">&quot;&amp;lt;&quot;</span>".toList

/-- Highlighting writes the tag of the phrase, whatever the name of its class holds. -/
theorem highlight_lossless_markupQuery :
    highlight markupQuery hostileClasses
        = "&lt;b&gt; <span class=\"bq-operator\">OR</span> ".toList ++ '<' :: hostilePhrase ∧
      ((∃ kind, openingTag (hostileClasses.get kind) <+: '<' :: hostilePhrase) ∨
        closingTag <+: '<' :: hostilePhrase) := by
  have hwritten : highlight markupQuery hostileClasses
      = "&lt;b&gt; <span class=\"bq-operator\">OR</span> ".toList ++ '<' :: hostilePhrase := by
    decide +kernel
  obtain ⟨hbrackets, -, -⟩ := highlight_lossless markupQuery hostileClasses
  exact ⟨hwritten, hbrackets _ _ hwritten⟩

end CandidateSearch

import CandidateSearch.Proofs.Text
import CandidateSearch.Text.Html

/-!
# Reading marked-up text

A text in HTML is read in two steps: its tags are deleted, and its entities are decoded.  The
definitions here read any text, whoever wrote it; the laws say what they make of escaped texts and of
single tags.

* `decodeEntities_toHtml`: decoding gives back what was escaped;
* `plain_of_mem_toHtml`: an escaped text opens no tag, closes none, and ends no attribute;
* `withoutTags_append`, `withoutTags_tag`: what is left when the tags are deleted;
* `tagsOf_append`, `tagsOf_tag`, `tagAt_mem_tagsOf`: what the signs `<` of a text begin.
-/

namespace CandidateSearch

namespace Text

/-! ## Entities -/

/-- The text with five entities decoded, once and from left to right. -/
def decodeEntities : Text → Text
  | '&' :: 'a' :: 'm' :: 'p' :: ';' :: rest => '&' :: decodeEntities rest
  | '&' :: 'l' :: 't' :: ';' :: rest => '<' :: decodeEntities rest
  | '&' :: 'g' :: 't' :: ';' :: rest => '>' :: decodeEntities rest
  | '&' :: 'q' :: 'u' :: 'o' :: 't' :: ';' :: rest => '"' :: decodeEntities rest
  | '&' :: '#' :: 'x' :: '2' :: '7' :: ';' :: rest => '\'' :: decodeEntities rest
  | c :: rest => c :: decodeEntities rest
  | [] => []

/-- No entity begins with another character than an ampersand. -/
theorem decodeEntities_cons {c : Char} (h : c ≠ '&') (rest : Text) :
    decodeEntities (c :: rest) = c :: decodeEntities rest := by
  conv_lhs => unfold decodeEntities
  split <;> simp_all

/-- The characters that are written as entities. -/
def escapedCharacters : List Char := ['&', '<', '>', '"', '\'']

/-- Every other character is written as itself. -/
theorem htmlCharacter_of_not_mem {c : Char} (h : c ∉ escapedCharacters) :
    htmlCharacter c = [c] := by
  simp only [escapedCharacters, List.mem_cons, List.not_mem_nil, or_false, not_or] at h
  obtain ⟨hamp, hopen, hclose, hquote, happ⟩ := h
  unfold htmlCharacter
  split
  · exact absurd rfl hamp
  · exact absurd rfl hopen
  · exact absurd rfl hclose
  · exact absurd rfl hquote
  · exact absurd rfl happ
  · rfl

/-- What is written for a character is decoded to it, whatever follows. -/
theorem decodeEntities_htmlCharacter (c : Char) (rest : Text) :
    decodeEntities (htmlCharacter c ++ rest) = c :: decodeEntities rest := by
  by_cases hc : c ∈ escapedCharacters
  · simp only [escapedCharacters, List.mem_cons, List.not_mem_nil, or_false] at hc
    rcases hc with rfl | rfl | rfl | rfl | rfl <;> rfl
  · rw [htmlCharacter_of_not_mem hc]
    apply decodeEntities_cons
    rintro rfl
    exact hc (by decide)

/-- **Decoding gives back what was escaped**, entities that the text itself holds included. -/
theorem decodeEntities_toHtml (t : Text) : decodeEntities t.toHtml = t := by
  unfold toHtml
  induction t with
  | nil => rfl
  | cons c t ih => rw [List.flatMap_cons, decodeEntities_htmlCharacter, ih]

/-- **An escaped text opens no tag, closes none, and ends no attribute.** -/
theorem plain_of_mem_toHtml {t : Text} {d : Char} (h : d ∈ t.toHtml) :
    d ≠ '<' ∧ d ≠ '>' ∧ d ≠ '"' := by
  have hentities : ∀ c ∈ escapedCharacters,
      (htmlCharacter c).all (fun d => decide (d ≠ '<' ∧ d ≠ '>' ∧ d ≠ '"')) = true :=
    Text.forall_mem_of_all (by decide +kernel)
  -- a character is written as an entity, or as itself if it needs none
  obtain ⟨c, -, hd⟩ := List.mem_flatMap.mp h
  by_cases hc : c ∈ escapedCharacters
  · exact Text.forall_mem_of_all (hentities c hc) d hd
  · rw [htmlCharacter_of_not_mem hc, List.mem_singleton] at hd
    rw [hd]
    refine ⟨?_, ?_, ?_⟩ <;> (rintro rfl; exact hc (by decide))

/-! ## Tags -/

/-- A tag, given what stands between its brackets. -/
def tag (inner : Text) : Text := '<' :: (inner ++ ['>'])

/-- A tag in front of a text. -/
theorem tag_append (inner rest : Text) : tag inner ++ rest = '<' :: (inner ++ '>' :: rest) := by
  rw [tag, List.cons_append, List.append_assoc, List.singleton_append]

/-- The text without every stretch from a `<` to the next `>`. -/
def withoutTags (t : Text) : Text :=
  match t with
  | [] => []
  | c :: rest =>
    if c = '<' then
      match h : after? '>' rest with
      | none => c :: withoutTags rest
      | some beyond =>
        have : beyond.length < rest.length := length_of_after? h
        withoutTags beyond
    else c :: withoutTags rest
  termination_by t.length
  decreasing_by all_goals (simp only [List.length_cons]; omega)

/-- Text in front that opens no tag stays. -/
theorem withoutTags_append {a : Text} (b : Text) (h : '<' ∉ a) :
    withoutTags (a ++ b) = a ++ withoutTags b := by
  induction a with
  | nil => rfl
  | cons c a ih =>
    rw [List.mem_cons, not_or] at h
    rw [List.cons_append, withoutTags, if_neg (Ne.symm h.1), ih h.2, List.cons_append]

/-- A tag in front is deleted. -/
theorem withoutTags_tag {inner : Text} (rest : Text) (h : '>' ∉ inner) :
    withoutTags (tag inner ++ rest) = withoutTags rest := by
  rw [tag_append, withoutTags, if_pos rfl]
  split
  · next hnone =>
    rw [after?_append_cons rest h] at hnone
    cases hnone
  · next beyond hsome =>
    rw [after?_append_cons rest h] at hsome
    cases hsome
    rfl

/-- What a `<` begins, given what follows it: the stretch through the next `>`, or to the end. -/
def tagAt (rest : Text) : Text :=
  '<' :: (rest.takeWhile (· != '>') ++ (rest.dropWhile (· != '>')).take 1)

/-- What every `<` of a text begins, in order. -/
def tagsOf : Text → List Text
  | [] => []
  | c :: rest => if c = '<' then tagAt rest :: tagsOf rest else tagsOf rest

/-- What a `<` begins stands there. -/
theorem tagAt_isPrefix (rest : Text) : tagAt rest <+: '<' :: rest := by
  rw [tagAt, List.cons_prefix_cons]
  refine ⟨rfl, ?_⟩
  conv_rhs => rw [← List.takeWhile_append_dropWhile (p := (· != '>')) (l := rest)]
  rw [List.prefix_append_right_inj]
  exact List.take_prefix _ _

/-- A tag is what its `<` begins. -/
theorem tagAt_eq_tag {inner : Text} (rest : Text) (h : '>' ∉ inner) :
    tagAt (inner ++ '>' :: rest) = tag inner := by
  have hall : ∀ d ∈ inner, (d != '>') = true := by
    intro d hd
    rw [bne_iff_ne]
    rintro rfl
    exact h hd
  have hdrop : ('>' :: rest).dropWhile (· != '>') = '>' :: rest := rfl
  rw [tagAt, takeWhile_ne_append_cons rest h, List.dropWhile_append_of_pos hall, hdrop]
  rfl

/-- Text in front without a `<` begins nothing. -/
theorem tagsOf_append {a : Text} (b : Text) (h : '<' ∉ a) : tagsOf (a ++ b) = tagsOf b := by
  induction a with
  | nil => rfl
  | cons c a ih =>
    rw [List.mem_cons, not_or] at h
    rw [List.cons_append, tagsOf, if_neg (Ne.symm h.1), ih h.2]

/-- A tag in front is the first one. -/
theorem tagsOf_tag {inner : Text} (rest : Text) (hopen : '<' ∉ inner) (hclose : '>' ∉ inner) :
    tagsOf (tag inner ++ rest) = tag inner :: tagsOf rest := by
  -- behind its bracket, the tag itself is text in which nothing begins
  have hbracket : '<' ∉ inner ++ ['>'] := by
    rw [List.mem_append, not_or]
    exact ⟨hopen, by decide⟩
  have hrest : inner ++ '>' :: rest = (inner ++ ['>']) ++ rest := by
    rw [List.append_assoc, List.singleton_append]
  rw [tag_append, tagsOf, if_pos rfl, tagAt_eq_tag rest hclose, hrest, tagsOf_append rest hbracket]

/-- Every `<` of a text begins one of the stretches that are listed. -/
theorem tagAt_mem_tagsOf (front rest : Text) : tagAt rest ∈ tagsOf (front ++ '<' :: rest) := by
  induction front with
  | nil =>
    rw [List.nil_append, tagsOf, if_pos rfl]
    exact List.mem_cons_self
  | cons c front ih =>
    rw [List.cons_append, tagsOf]
    split_ifs
    · exact List.mem_cons_of_mem _ ih
    · exact ih

end Text

end CandidateSearch

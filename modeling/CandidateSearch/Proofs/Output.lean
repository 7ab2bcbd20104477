import CandidateSearch.Proofs.Clauses
import CandidateSearch.Query.Record

/-!
# What parsing and compiling give

Whatever the query, the lists of a parsed query hold pairwise different terms, each of which can be
pointed at in the query, and the payload for the search backend holds those lists and nothing else.

* `nodup_readField`, `isTerm_of_mem_readField`: the lists of one field;
* `jobTitlesAndOccupations_of_nodup`: titles, then the occupations that are not titles already;
* `payload_compileFilters`: the payload as the object made of four lists;
* `output_invariant`: all of it together, for every query.
-/

namespace CandidateSearch

/-! ## Lists of a parsed query -/

/-- The terms that a query states for a field are pairwise different. -/
theorem nodup_readField (query : Text) (excludeNegated : Bool) (f : ListField) :
    (readField query excludeNegated f).terms.Nodup := by
  cases h : extractField query f.label with
  | none =>
    rw [readField_of_none _ h]
    exact List.nodup_nil
  | some content =>
    rw [readField_of_some _ h]
    exact nodup_terms_extractTerms content excludeNegated

/-- **Every term that a query states is well formed and stands in the query.** -/
theorem isTerm_of_mem_readField {query t : Text} {excludeNegated : Bool} {f : ListField}
    (ht : t ∈ (readField query excludeNegated f).terms) : IsTerm t ∧ t <:+: query := by
  cases h : extractField query f.label with
  | none =>
    rw [readField_of_none _ h] at ht
    cases ht
  | some content =>
    rw [readField_of_some _ h] at ht
    rw [extractField_eq_firstUsable] at h
    obtain ⟨r, hr, hcontent⟩ := List.mem_map.mp (mem_of_firstUsable h).1
    obtain ⟨hwell, hstretch⟩ := isTerm_of_mem_contentOf hcontent ht
    exact ⟨hwell, hstretch.trans (isSuffix_of_mem_remainders hr).isInfix⟩

/-- Lists whose entries are pairwise different terms, all found in a text. -/
structure FieldLists.DrawnFrom (lists : FieldLists) (text : Text) : Prop where
  /-- No list names an entry twice. -/
  nodup : ∀ f, (lists.get f).Nodup
  /-- No entry is empty, has blanks at an end or holds a quote. -/
  isTerm : ∀ f, ∀ t ∈ lists.get f, IsTerm t
  /-- Every entry is a stretch of the text. -/
  isInfix : ∀ f, ∀ t ∈ lists.get f, t <:+: text

/-- The lists of a parsed query are drawn from the query. -/
theorem drawnFrom_parse (query : Text) (excludeNegated : Bool) :
    (parse query excludeNegated).terms.DrawnFrom query where
  nodup f := by
    rw [terms_parse]
    exact nodup_readField query excludeNegated f
  isTerm f t ht := by
    rw [terms_parse] at ht
    exact (isTerm_of_mem_readField ht).1
  isInfix f t ht := by
    rw [terms_parse] at ht
    exact (isTerm_of_mem_readField ht).2

/-! ## Job titles -/

/-- **Titles, then the occupations that are not titles already.** -/
theorem jobTitlesAndOccupations_of_nodup {terms : FieldLists} (htitles : terms.jobTitles.Nodup)
    (hoccupations : terms.jobOccupations.Nodup) :
    jobTitlesAndOccupations terms
      = terms.jobTitles ++ terms.jobOccupations.filter (· ∉ terms.jobTitles) := by
  have hremove : terms.jobOccupations.removeAll terms.jobTitles
      = terms.jobOccupations.filter (· ∉ terms.jobTitles) := by
    rw [List.removeAll]
    refine List.filter_congr fun t _ => ?_
    rw [List.elem_eq_mem, decide_not]
  rw [jobTitlesAndOccupations, List.eraseDups_append, eraseDups_of_nodup htitles, hremove,
    eraseDups_of_nodup (hoccupations.filter _)]

/-! ## Objects made of lists -/

/-- One list that an object may hold: the key of its section, its name there, and its entries. -/
structure ListRow where
  key : String
  name : String
  entries : List Text

/-- The section of a row. -/
def ListRow.json (row : ListRow) : Json := .record [(row.name, .texts row.entries)]

/-- The sections of the rows that have entries. -/
def listSections (rows : List ListRow) : List (String × Json) :=
  (rows.filter fun row => !row.entries.isEmpty).map fun row => (row.key, row.json)

/-- The value that an object holds under a key. -/
def Json.get? (key : String) : Json → Option Json
  | .object fields => fields.lookup key.toList
  | _ => none

/-- An object holds the list of a row, or lacks its key if the list is empty. -/
def Json.Holds (payload : Json) (row : ListRow) : Prop :=
  payload.get? row.key = if row.entries = [] then none else some row.json

/-- A row without entries has no section. -/
theorem listSections_cons_nil {row : ListRow} (rows : List ListRow) (h : row.entries = []) :
    listSections (row :: rows) = listSections rows := by
  rw [listSections, List.filter_cons_of_neg (by simp [h]), listSections]

/-- A row with entries has a section in front. -/
theorem listSections_cons {row : ListRow} (rows : List ListRow) (h : row.entries ≠ []) :
    listSections (row :: rows) = (row.key, row.json) :: listSections rows := by
  rw [listSections, List.filter_cons_of_pos (by simpa using h), List.map_cons, listSections]

/-- Looking up a key in an object made of sections. -/
theorem get?_record_cons (key k : String) (value : Json) (fields : List (String × Json)) :
    Json.get? k (.record ((key, value) :: fields))
      = if k = key then some value else Json.get? k (.record fields) := by
  rw [Json.record, List.map_cons, Json.get?, List.lookup_cons]
  by_cases h : k = key
  · rw [if_pos h, h, beq_self_eq_true]
  · have hne : (k.toList == key.toList) = false := by
      rw [beq_eq_false_iff_ne]
      exact fun heq => h (String.toList_inj.mp heq)
    rw [if_neg h, hne]
    rfl

/-- A key that no row has is not in the object. -/
theorem get?_listSections_of_not_mem {rows : List ListRow} {k : String}
    (h : k ∉ rows.map (·.key)) : Json.get? k (.record (listSections rows)) = none := by
  induction rows with
  | nil => rfl
  | cons row rows ih =>
    rw [List.map_cons, List.mem_cons, not_or] at h
    by_cases hrow : row.entries = []
    · rw [listSections_cons_nil _ hrow, ih h.2]
    · rw [listSections_cons _ hrow, get?_record_cons, if_neg h.1, ih h.2]

/-- **The object holds every row**, if no two rows have the same key. -/
theorem holds_listSections {rows : List ListRow} (hkeys : (rows.map (·.key)).Nodup) :
    ∀ row ∈ rows, (Json.record (listSections rows)).Holds row := by
  induction rows with
  | nil => simp
  | cons first rows ih =>
    rw [List.map_cons, List.nodup_cons] at hkeys
    intro row hrow
    rw [Json.Holds]
    rcases List.mem_cons.mp hrow with rfl | hrow
    · by_cases hentries : row.entries = []
      · rw [listSections_cons_nil _ hentries, get?_listSections_of_not_mem hkeys.1, if_pos hentries]
      · rw [listSections_cons _ hentries, get?_record_cons, if_pos rfl, if_neg hentries]
    · have hne : row.key ≠ first.key := by
        intro heq
        exact hkeys.1 (heq ▸ List.mem_map_of_mem hrow)
      by_cases hentries : first.entries = []
      · rw [listSections_cons_nil _ hentries]
        exact ih hkeys.2 row hrow
      · rw [listSections_cons _ hentries, get?_record_cons, if_neg hne]
        exact ih hkeys.2 row hrow

/-- Every section is that of a row with entries. -/
theorem exists_row_of_mem_listSections {rows : List ListRow} {field : String × Json}
    (h : field ∈ listSections rows) :
    ∃ row ∈ rows, row.entries ≠ [] ∧ field = (row.key, row.json) := by
  obtain ⟨row, hrow, rfl⟩ := List.mem_map.mp h
  obtain ⟨hmem, hentries⟩ := List.mem_filter.mp hrow
  exact ⟨row, hmem, by simpa using hentries, rfl⟩

/-- There are no sections exactly when no row has entries. -/
theorem listSections_eq_nil_iff {rows : List ListRow} :
    listSections rows = [] ↔ ∀ row ∈ rows, row.entries = [] := by
  simp [listSections]

/-! ## Payloads -/

/-- The lists that a parsed query sends to the search backend. -/
def payloadRows (p : ParsedQuery) : List ListRow :=
  [⟨"skillsKeywords", "items", p.terms.keywords⟩,
    ⟨"job", "titles", jobTitlesAndOccupations p.terms⟩,
    ⟨"company", "names", p.terms.companies⟩,
    ⟨"location", "currentLocations", p.terms.locations⟩]

/-- **The payload of compiled filters** is the object made of these lists. -/
theorem payload_compileFilters (p : ParsedQuery) :
    (compileFilters p).payload = .record (listSections (payloadRows p)) := by
  have hsections : (compileFilters p).sections = listSections (payloadRows p) := by
    simp only [SearchFilters.sections, compileFilters, sectionOf, listSections, payloadRows]
    cases p.terms.keywords <;> cases jobTitlesAndOccupations p.terms <;>
      cases p.terms.companies <;> cases p.terms.locations <;> rfl
  rw [SearchFilters.payload, hsections]

/-- A parsed query holds no term exactly when it sends no list. -/
theorem isEmpty_iff_payloadRows (p : ParsedQuery) :
    p.isEmpty = true ↔ ∀ row ∈ payloadRows p, row.entries = [] := by
  have htitles : jobTitlesAndOccupations p.terms = [] ↔
      p.terms.jobTitles = [] ∧ p.terms.jobOccupations = [] := by
    rw [← List.append_eq_nil_iff, jobTitlesAndOccupations]
    constructor
    · intro h
      rw [List.eq_nil_iff_forall_not_mem] at h ⊢
      exact fun t ht => h t (List.mem_eraseDups.mpr ht)
    · intro h
      rw [h, List.eraseDups_nil]
  simp only [ParsedQuery.isEmpty, FieldLists.isEmpty, ListField.all, FieldLists.get, payloadRows,
    List.all_cons, List.all_nil, Bool.and_true, Bool.and_eq_true, List.isEmpty_iff,
    List.forall_mem_cons, List.not_mem_nil, false_imp_iff, implies_true, and_true, htitles]
  tauto

/-- The lists that are sent name no entry twice, if those of the query do not. -/
theorem nodup_of_mem_payloadRows {p : ParsedQuery} (hnodup : ∀ f, (p.terms.get f).Nodup)
    {row : ListRow} (hrow : row ∈ payloadRows p) : row.entries.Nodup := by
  simp only [payloadRows, List.mem_cons, List.not_mem_nil, or_false] at hrow
  rcases hrow with rfl | rfl | rfl | rfl
  · exact hnodup .keywords
  · exact nodup_eraseDups _
  · exact hnodup .company
  · exact hnodup .location

/-- What a payload says about a parsed query. -/
structure PayloadOf (payload : Json) (p : ParsedQuery) : Prop where
  /-- Keywords stand in a section of their own. -/
  keywords : payload.Holds ⟨"skillsKeywords", "items", p.terms.keywords⟩
  /-- Titles and the occupations that are not titles already stand in one section, in order. -/
  job : payload.Holds ⟨"job", "titles",
    p.terms.jobTitles ++ p.terms.jobOccupations.filter (· ∉ p.terms.jobTitles)⟩
  /-- That section is there if there are titles or occupations. -/
  job_isSome : (payload.get? "job").isSome = true ↔
    p.terms.jobTitles ≠ [] ∨ p.terms.jobOccupations ≠ []
  /-- Companies stand in a section of their own. -/
  companies : payload.Holds ⟨"company", "names", p.terms.companies⟩
  /-- Locations stand in a section of their own. -/
  locations : payload.Holds ⟨"location", "currentLocations", p.terms.locations⟩
  /-- Time scopes have no section. -/
  general : payload.get? "general" = none
  /-- Every section is one of these four and holds a list that is not empty and names no entry
  twice. -/
  sections : ∃ fields : List (String × Json), payload = .record fields ∧
    ∀ field ∈ fields, field.1 ∈ ["skillsKeywords", "job", "company", "location"] ∧
      ∃ name entries, field.2 = .record [(name, .texts entries)] ∧ entries ≠ [] ∧ entries.Nodup
  /-- The payload is the empty object if no field holds a term. -/
  empty : payload = .object [] ↔ p.isEmpty = true

/-- **Filters say what the parsed query says**, if its lists name no entry twice. -/
theorem payloadOf_compileFilters {p : ParsedQuery} (hnodup : ∀ f, (p.terms.get f).Nodup) :
    PayloadOf (compileFilters p).payload p := by
  have htitles := jobTitlesAndOccupations_of_nodup (hnodup .jobTitle) (hnodup .jobOccupation)
  have hkeys : ((payloadRows p).map (·.key)).Nodup := by
    simp only [payloadRows, List.map_cons, List.map_nil]
    decide
  have hholds := holds_listSections hkeys
  have hjob := hholds ⟨"job", "titles", jobTitlesAndOccupations p.terms⟩ (by simp [payloadRows])
  rw [htitles] at hjob
  rw [payload_compileFilters]
  exact {
    keywords := hholds _ (by simp [payloadRows])
    job := hjob
    job_isSome := by
      rw [hjob]
      split_ifs with hnil
      · obtain ⟨h₁, h₂⟩ := List.append_eq_nil_iff.mp hnil
        rw [h₁] at h₂
        simpa [h₁] using h₂
      · simp only [Option.isSome_some, true_iff]
        by_contra hboth
        rw [not_or, not_not, not_not] at hboth
        exact hnil (by rw [hboth.1, hboth.2]; rfl)
    companies := hholds _ (by simp [payloadRows])
    locations := hholds _ (by simp [payloadRows])
    general := get?_listSections_of_not_mem (by simp only [payloadRows, List.map]; decide)
    sections := by
      refine ⟨_, rfl, fun field hfield => ?_⟩
      obtain ⟨row, hrow, hne, rfl⟩ := exists_row_of_mem_listSections hfield
      refine ⟨?_, row.name, row.entries, rfl, hne, nodup_of_mem_payloadRows hnodup hrow⟩
      have hkey := List.mem_map_of_mem (f := ListRow.key) hrow
      simpa only [payloadRows, List.map] using hkey
    empty := by
      rw [isEmpty_iff_payloadRows, ← listSections_eq_nil_iff, Json.record, Json.object.injEq,
        List.map_eq_nil_iff] }

/-- **The output invariant.**  For every query, well formed or not, the lists of the parsed query
are drawn from the query, and the payload holds those lists and nothing else. -/
theorem output_invariant (query : Text) (excludeNegated : Bool) :
    (parse query excludeNegated).terms.DrawnFrom query ∧
      PayloadOf (compileFilters (parse query excludeNegated)).payload
        (parse query excludeNegated) := by
  have hdrawn := drawnFrom_parse query excludeNegated
  exact ⟨hdrawn, payloadOf_compileFilters hdrawn.nodup⟩

end CandidateSearch

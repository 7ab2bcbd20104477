import CandidateSearch.Proofs.Text
import CandidateSearch.Record

/-!
# Records as documents and back

A record that was read from a document can be written and read again, whatever the document was:
what is stored of it is what its own JSON says.  Filters can also be read from what is sent to the
search backend, where absent sections are left out and other names are used.

`Survives` says of one value that reading it from its JSON gives it back.  A record survives if its
fields do, so there is one such fact for every kind of field, and one for every record.

* `under?_recordEntries`: the fields of a record are found under their names;
* `fieldOr_eq_good`: a field that is read holds its default or what its reader accepts;
* `SearchFilters.survives_payload`: filters are read from what is sent;
* `SearchFilters.keepsTo_payload`: what is sent holds no null and no other names;
* `AnyRecord.read_toJson_of_read`: records of every kind survive.
-/

namespace CandidateSearch

/-! ## Values that survive -/

/-- Reading what is written of a value gives the value again. -/
def Survives {α : Type} (read : Part → Checked α) (toJson : α → Json) (v : α) : Prop :=
  read (toJson v).toDocument.whole = .good v

theorem survives_text (t : Text) : Survives Part.readText .text t := rfl

theorem survives_flag (b : Bool) : Survives Part.readFlag .bool b := rfl

/-- A time scope survives under its name. -/
theorem survives_scope (s : TimeScope) : Survives Part.readScope (fun s => .text s.name) s := by
  cases s <;> rfl

/-- A list of texts survives: every item does, under any index. -/
theorem survives_texts (ts : List Text) : Survives Part.readTexts .texts ts := by
  have hitems : ∀ index, Checked.listFrom (fun item => item.whole.readText) index
      (Json.toDocuments (ts.map .text)) = .good ts := by
    induction ts with
    | nil => exact fun _ => rfl
    | cons t ts ih =>
      intro index
      rw [List.map_cons, Json.toDocuments, Checked.listFrom, ih (index + 1)]
      rfl
  exact hitems 0

/-- What is written as a record is not null, so it is read as present. -/
theorem readOptional_record {α : Type} {read : Part → Checked α} {toJson : α → Json} {v : α}
    (hrecord : ∃ fields, toJson v = .record fields) (h : Survives read toJson v) :
    Part.readOptional read (toJson v).toDocument.whole = .good (some v) := by
  obtain ⟨fields, hfields⟩ := hrecord
  rw [Survives, hfields] at h
  rw [hfields]
  show (read (Json.record fields).toDocument.whole).map some = _
  rw [h]
  rfl

/-- A section survives if its records do, and so does its absence. -/
theorem survives_section {α : Type} {read : Part → Checked α} {toJson : α → Json}
    (hrecord : ∀ v, ∃ fields, toJson v = .record fields) (h : ∀ v, Survives read toJson v)
    (o : Option α) : Survives (Part.readOptional read) (SearchFilters.sectionJson toJson) o := by
  cases o with
  | none => rfl
  | some v => exact readOptional_record (hrecord v) (h v)

/-! ## Fields of a record -/

/-- The entries from which a record is read that was written with these fields. -/
def recordEntries (fields : List (String × Json)) : Entries :=
  ⟨(Json.record fields).toDocument.whole, Json.toEntries (fields.map fun (k, v) => (k.toList, v))⟩

/-- The fields of a record are found under their names. -/
theorem under?_recordEntries (key : String) (fields : List (String × Json)) :
    (recordEntries fields).under? key
      = (fields.lookup key).map fun v => v.toDocument.whole := by
  have hlookup : lookupText key.toList (Json.toEntries (fields.map fun (k, v) => (k.toList, v)))
      = (fields.lookup key).map Json.toDocument := by
    induction fields with
    | nil => rfl
    | cons field fields ih =>
      obtain ⟨k, v⟩ := field
      rw [List.map_cons, Json.toEntries, Json.toEntry, lookupText, List.lookup_cons]
      by_cases hk : k = key
      · rw [if_pos (congrArg String.toList hk), hk, beq_self_eq_true]
        rfl
      · have hne : (key == k) = false := beq_eq_false_iff_ne.mpr (Ne.symm hk)
        rw [if_neg fun h => hk (String.toList_inj.mp h), hne, ih]
  rw [recordEntries, Entries.under?, hlookup, Option.map_map]
  rfl

/-- A record that was written is read from its fields. -/
theorem readRecord_record {α : Type} (kind : RecordKind) (readEntries : Entries → Checked α)
    (fields : List (String × Json)) :
    Part.readRecord kind readEntries (Json.record fields).toDocument.whole
      = readEntries (recordEntries fields) := rfl

section Fields

variable {α : Type} {read : Part → Checked α} {toJson : α → Json} {v : α} {key : String}
  {fields : List (String × Json)}

/-- A field that was written is read again. -/
theorem fieldOr_of_lookup (default : α) (hkey : fields.lookup key = some (toJson v))
    (h : Survives read toJson v) : fieldOr default key read (recordEntries fields) = .good v := by
  rw [fieldOr, under?_recordEntries, hkey]
  show Checked.under _ (read (toJson v).toDocument.whole) = _
  rw [h]
  rfl

/-- A field that must be there is read again if it was written. -/
theorem requiredField_of_lookup (hkey : fields.lookup key = some (toJson v))
    (h : Survives read toJson v) : requiredField key read (recordEntries fields) = .good v := by
  rw [requiredField, under?_recordEntries, hkey]
  show Checked.under _ (read (toJson v).toDocument.whole) = _
  rw [h]
  rfl

/-- A field that was not written has its default. -/
theorem fieldOr_of_lookup_eq_none (default : α) (hkey : fields.lookup key = none) :
    fieldOr default key read (recordEntries fields) = .good default := by
  rw [fieldOr, under?_recordEntries, hkey]
  rfl

/-- The first of two names is taken if nothing stands under the second. -/
theorem keyOf_eq_first {first second : String} (hsecond : fields.lookup second = none) :
    keyOf first second (recordEntries fields) = first := by
  rw [keyOf, under?_recordEntries, under?_recordEntries, hsecond]
  simp

/-- The second of two names is taken if only there something stands. -/
theorem keyOf_eq_second {first second : String} {j : Json} (hfirst : fields.lookup first = none)
    (hsecond : fields.lookup second = some j) :
    keyOf first second (recordEntries fields) = second := by
  rw [keyOf, under?_recordEntries, under?_recordEntries, hfirst, hsecond]
  rfl

end Fields

/-! ## What is read -/

/-- A value that is read by two readers. -/
theorem Checked.seq_eq_good {α β : Type} {f : Checked (α → β)} {a : Checked α} {b : β}
    (h : f <*> a = .good b) : ∃ g x, f = .good g ∧ a = .good x ∧ g x = b := by
  cases f with
  | bad => cases a <;> cases h
  | good g =>
    cases a with
    | bad => cases h
    | good x =>
      cases h
      exact ⟨g, x, rfl, rfl, rfl⟩

/-- A value that is made of what is read. -/
theorem Checked.map_eq_good {α β : Type} {f : α → β} {a : Checked α} {b : β}
    (h : a.map f = .good b) : ∃ x, a = .good x ∧ f x = b := by
  cases a with
  | bad => cases h
  | good x =>
    cases h
    exact ⟨x, rfl, rfl⟩

/-- A field that is read holds its default, or what its reader accepts. -/
theorem fieldOr_eq_good {α : Type} {default v : α} {key : String} {read : Part → Checked α}
    {entries : Entries} (h : fieldOr default key read entries = .good v) :
    v = default ∨ ∃ p, read p = .good v := by
  unfold fieldOr at h
  split at h
  · next p _ =>
    cases hread : read p with
    | bad => rw [hread] at h; cases h
    | good x =>
      rw [hread] at h
      cases h
      exact Or.inr ⟨p, hread⟩
  · cases h
    exact Or.inl rfl

/-- A record that is read is read from entries. -/
theorem readRecord_eq_good {α : Type} {kind : RecordKind} {read : Entries → Checked α} {p : Part}
    {v : α} (h : Part.readRecord kind read p = .good v) : ∃ entries, read entries = .good v := by
  unfold Part.readRecord at h
  split at h
  · exact ⟨_, h⟩
  · cases h

/-! ## Settings -/

/-- A text that can be the name of a class. -/
def IsClassName (t : Text) : Prop := t ≠ [] ∧ t.trim = t

/-- What is read as a class can be the name of one. -/
theorem isClassName_of_readClass {p : Part} {t : Text} (h : p.readClass = .good t) :
    IsClassName t := by
  unfold Part.readClass at h
  split at h
  · next u hu =>
    split_ifs at h with hempty
    · cases h
    · cases h
      exact ⟨by simpa using hempty, Text.trim_trim u⟩
  · cases h

/-- The name of a class survives. -/
theorem survives_class {t : Text} (h : IsClassName t) : Survives Part.readClass .text t := by
  have hne : ¬ (t.trim.isEmpty = true) := by
    rw [h.2, List.isEmpty_iff]
    exact h.1
  show (if t.trim.isEmpty = true then _ else Checked.good t.trim) = _
  rw [if_neg hne, h.2]

/-- Every kind of highlighted text has the name of a class. -/
def HighlightClasses.AreNames (c : HighlightClasses) : Prop := ∀ kind, IsClassName (c.get kind)

/-- The classes that are used without settings have names. -/
theorem HighlightClasses.areNames_default : AreNames {} := by
  intro kind
  cases kind <;> exact ⟨by decide, by decide⟩

/-- Classes that were read have names. -/
theorem HighlightClasses.areNames_of_read {p : Part} {c : HighlightClasses}
    (h : HighlightClasses.read p = .good c) : c.AreNames := by
  have hclass : ∀ {default t : Text} {key : String} {entries : Entries}, IsClassName default →
      fieldOr default key Part.readClass entries = .good t → IsClassName t := by
    intro default t key entries hdefault hread
    rcases fieldOr_eq_good hread with rfl | ⟨q, hq⟩
    · exact hdefault
    · exact isClassName_of_readClass hq
  obtain ⟨entries, hentries⟩ := readRecord_eq_good h
  obtain ⟨withoutPhrase, phrase, hboth, hphrase, hc⟩ := Checked.seq_eq_good hentries
  obtain ⟨withField, operator, hone, hoperator, rfl⟩ := Checked.seq_eq_good hboth
  obtain ⟨field, hfield, rfl⟩ := Checked.map_eq_good hone
  rw [← hc]
  intro kind
  cases kind with
  | field => exact hclass (areNames_default .field) hfield
  | phrase => exact hclass (areNames_default .phrase) hphrase
  | operator => exact hclass (areNames_default .operator) hoperator

/-- Classes survive if they have names. -/
theorem HighlightClasses.survives {c : HighlightClasses} (h : c.AreNames) :
    Survives HighlightClasses.read toJson c := by
  rw [Survives, HighlightClasses.read, toJson, readRecord_record,
    fieldOr_of_lookup _ rfl (survives_class (h .field)),
    fieldOr_of_lookup _ rfl (survives_class (h .operator)),
    fieldOr_of_lookup _ rfl (survives_class (h .phrase))]
  rfl

theorem ParserConfig.survives (c : ParserConfig) : Survives ParserConfig.read toJson c := by
  rw [Survives, ParserConfig.read, toJson, readRecord_record,
    fieldOr_of_lookup _ rfl (survives_flag c.excludeNegatedTerms)]
  rfl

/-- Settings survive if their classes have names. -/
theorem Settings.survives {s : Settings} (h : s.display.AreNames) :
    Survives Settings.read toJson s := by
  rw [Survives, Settings.read, toJson, readRecord_record, fieldOr_of_lookup _ rfl s.parser.survives,
    fieldOr_of_lookup _ rfl (HighlightClasses.survives h)]
  rfl

/-- The classes of settings that were read have names. -/
theorem Settings.areNames_of_read {p : Part} {s : Settings} (h : Settings.read p = .good s) :
    s.display.AreNames := by
  obtain ⟨entries, hentries⟩ := readRecord_eq_good h
  obtain ⟨withParser, display, hparser, hdisplay, hs⟩ := Checked.seq_eq_good hentries
  obtain ⟨parser, -, rfl⟩ := Checked.map_eq_good hparser
  rw [← hs]
  -- classes may be absent as a whole, or come from a record of their own
  rcases fieldOr_eq_good hdisplay with rfl | ⟨q, hq⟩
  · exact HighlightClasses.areNames_default
  · exact HighlightClasses.areNames_of_read hq

/-! ## Parsed queries -/

/-- The five lists survive among other fields. -/
theorem FieldLists.readEntries_jsonFields (lists : FieldLists) (rest : List (String × Json)) :
    readEntries (recordEntries (lists.jsonFields ++ rest)) = .good lists := by
  rw [readEntries, fieldOr_of_lookup _ rfl (survives_texts lists.keywords),
    fieldOr_of_lookup _ rfl (survives_texts lists.jobTitles),
    fieldOr_of_lookup _ rfl (survives_texts lists.jobOccupations),
    fieldOr_of_lookup _ rfl (survives_texts lists.companies),
    fieldOr_of_lookup _ rfl (survives_texts lists.locations)]
  rfl

theorem FieldLists.survives (lists : FieldLists) : Survives FieldLists.read toJson lists := by
  rw [Survives, FieldLists.read, toJson, readRecord_record, ← List.append_nil lists.jsonFields,
    readEntries_jsonFields]

theorem ParsedQuery.survives (p : ParsedQuery) : Survives ParsedQuery.read toJson p := by
  rw [Survives, ParsedQuery.read, toJson, readRecord_record, FieldLists.readEntries_jsonFields,
    fieldOr_of_lookup _ rfl (survives_scope p.timeScope),
    fieldOr_of_lookup _ rfl (survives_scope p.companyTimeScope),
    fieldOr_of_lookup _ rfl p.operators.survives,
    fieldOr_of_lookup _ rfl (survives_text p.rawQuery)]
  rfl

theorem ValidationResult.survives (r : ValidationResult) :
    Survives ValidationResult.read toJson r := by
  rw [Survives, ValidationResult.read, toJson, readRecord_record,
    requiredField_of_lookup rfl (survives_flag r.isValid),
    fieldOr_of_lookup _ rfl (survives_texts r.errors),
    fieldOr_of_lookup _ rfl (survives_texts r.warnings)]
  rfl

/-! ## Filters -/

theorem SkillsKeywordsFilter.survives (f : SkillsKeywordsFilter) :
    Survives SkillsKeywordsFilter.read toJson f := by
  rw [Survives, SkillsKeywordsFilter.read, toJson, readRecord_record,
    requiredField_of_lookup rfl (survives_texts f.items)]
  rfl

theorem JobFilter.survives (f : JobFilter) : Survives JobFilter.read toJson f := by
  rw [Survives, JobFilter.read, toJson, readRecord_record,
    requiredField_of_lookup rfl (survives_texts f.titles)]
  rfl

theorem CompanyFilter.survives (f : CompanyFilter) : Survives CompanyFilter.read toJson f := by
  rw [Survives, CompanyFilter.read, toJson, readRecord_record,
    requiredField_of_lookup rfl (survives_texts f.names)]
  rfl

/-- Places survive under the name of the record. -/
theorem LocationFilter.survives (f : LocationFilter) : Survives LocationFilter.read toJson f := by
  rw [Survives, LocationFilter.read, toJson, readRecord_record, keyOf_eq_second rfl rfl,
    requiredField_of_lookup rfl (survives_texts f.currentLocations)]
  rfl

/-- Places survive under the name of the backend. -/
theorem LocationFilter.survives_payload (f : LocationFilter) :
    Survives LocationFilter.read payload f := by
  rw [Survives, LocationFilter.read, payload, readRecord_record, keyOf_eq_first rfl,
    requiredField_of_lookup rfl (survives_texts f.currentLocations)]
  rfl

theorem GeneralFilter.survives (f : GeneralFilter) : Survives GeneralFilter.read toJson f := rfl

/-- Filters survive with null for absent sections. -/
theorem SearchFilters.survives (f : SearchFilters) : Survives SearchFilters.read toJson f := by
  rw [Survives, SearchFilters.read, toJson, readRecord_record, keyOf_eq_second rfl rfl,
    fieldOr_of_lookup _ rfl (survives_section (fun _ => ⟨_, rfl⟩) SkillsKeywordsFilter.survives _),
    fieldOr_of_lookup _ rfl (survives_section (fun _ => ⟨_, rfl⟩) JobFilter.survives _),
    fieldOr_of_lookup _ rfl (survives_section (fun _ => ⟨_, rfl⟩) CompanyFilter.survives _),
    fieldOr_of_lookup _ rfl (survives_section (fun _ => ⟨_, rfl⟩) LocationFilter.survives _),
    fieldOr_of_lookup _ rfl (survives_section (fun _ => ⟨_, rfl⟩) GeneralFilter.survives _)]
  rfl

theorem CompiledQuery.survives (c : CompiledQuery) : Survives CompiledQuery.read toJson c := by
  rw [Survives, CompiledQuery.read, toJson, readRecord_record,
    requiredField_of_lookup rfl c.validation.survives,
    requiredField_of_lookup rfl c.parsed.survives, requiredField_of_lookup rfl c.filters.survives]
  rfl

/-! ## Payloads -/

/-- A section under its key, or nothing. -/
theorem lookup_section {α : Type} (key k : String) (write : α → Json) (o : Option α) :
    ((o.map fun s => (k, write s)).toList).lookup key
      = if key = k then o.map write else none := by
  cases o with
  | none => simp
  | some v =>
    by_cases h : key = k
    · simp [h]
    · have hne : (key == k) = false := beq_eq_false_iff_ne.mpr h
      simp [hne, h, List.lookup_cons]

/-- A section that is written if it is there is read again. -/
theorem fieldOr_of_section {α : Type} {read : Part → Checked α} {write : α → Json} {key : String}
    {fields : List (String × Json)} {o : Option α} (hkey : fields.lookup key = o.map write)
    (hrecord : ∀ v, ∃ fields, write v = .record fields) (h : ∀ v, Survives read write v) :
    fieldOr none key (Part.readOptional read) (recordEntries fields) = .good o := by
  cases o with
  | none => exact fieldOr_of_lookup_eq_none none hkey
  | some v =>
    have hpresent : fields.lookup key = some (SearchFilters.sectionJson write (some v)) := hkey
    exact fieldOr_of_lookup none hpresent (readOptional_record (hrecord v) (h v))

/-- **Filters are read from what is sent** to the search backend. -/
theorem SearchFilters.survives_payload (f : SearchFilters) :
    Survives SearchFilters.read payload f := by
  -- an absent section is not written, so its key is missing and its default is its absence
  have hskills : f.sections.lookup "skillsKeywords" = f.skillsKeywords.map (·.toJson) := by
    simp [sections, List.lookup_append, lookup_section]
  have halias : f.sections.lookup "skills_keywords" = none := by
    simp [sections, List.lookup_append, lookup_section]
  have hjob : f.sections.lookup "job" = f.job.map (·.toJson) := by
    simp [sections, List.lookup_append, lookup_section]
  have hcompany : f.sections.lookup "company" = f.company.map (·.toJson) := by
    simp [sections, List.lookup_append, lookup_section]
  have hlocation : f.sections.lookup "location" = f.location.map (·.payload) := by
    simp [sections, List.lookup_append, lookup_section]
  have hgeneral : f.sections.lookup "general" = f.general.map (·.toJson) := by
    simp [sections, List.lookup_append, lookup_section]
  rw [Survives, SearchFilters.read, payload, readRecord_record, keyOf_eq_first halias,
    fieldOr_of_section hskills (fun _ => ⟨_, rfl⟩) SkillsKeywordsFilter.survives,
    fieldOr_of_section hjob (fun _ => ⟨_, rfl⟩) JobFilter.survives,
    fieldOr_of_section hcompany (fun _ => ⟨_, rfl⟩) CompanyFilter.survives,
    fieldOr_of_section hlocation (fun _ => ⟨_, rfl⟩) LocationFilter.survives_payload,
    fieldOr_of_section hgeneral (fun _ => ⟨_, rfl⟩) GeneralFilter.survives]
  rfl

/-! ## What a payload consists of -/

mutual

/-- A value and every value inside it. -/
def Json.parts : Json → List Json
  | .array items => .array items :: partsOfItems items
  | .object fields => .object fields :: partsOfFields fields
  | j => [j]
  termination_by structural j => j

/-- The parts of some items. -/
def Json.partsOfItems : List Json → List Json
  | [] => []
  | item :: rest => item.parts ++ partsOfItems rest
  termination_by structural items => items

/-- The parts of the values of some fields. -/
def Json.partsOfFields : List (Text × Json) → List Json
  | [] => []
  | field :: rest => partsOfField field ++ partsOfFields rest
  termination_by structural fields => fields

/-- The parts of the value of a field. -/
def Json.partsOfField : Text × Json → List Json
  | (_, value) => value.parts
  termination_by structural field => field

end

/-- The keys of an object. -/
def Json.keys : Json → List Text
  | .object fields => fields.map Prod.fst
  | _ => []

/-- A value holds no null at any level, and no other keys than these. -/
structure Json.KeepsTo (names : List Text) (j : Json) : Prop where
  noNull : .null ∉ j.parts
  keys : ∀ part ∈ j.parts, ∀ key ∈ part.keys, key ∈ names

/-- A list of texts consists of itself and its texts. -/
theorem Json.mem_parts_texts {j : Json} {ts : List Text} :
    j ∈ (texts ts).parts ↔ j = texts ts ∨ ∃ t ∈ ts, j = .text t := by
  have hitems : j ∈ partsOfItems (ts.map .text) ↔ ∃ t ∈ ts, j = .text t := by
    induction ts with
    | nil => simp [partsOfItems]
    | cons t ts ih =>
      rw [List.map_cons, partsOfItems, List.mem_append, ih, List.exists_mem_cons_iff, parts,
        List.mem_singleton]
      · rintro items h
        cases h
      · rintro fields h
        cases h
  rw [texts, parts, List.mem_cons, hitems]

/-- A record consists of itself and of the parts of its fields. -/
theorem Json.mem_parts_record {j : Json} {fields : List (String × Json)} :
    j ∈ (record fields).parts ↔ j = record fields ∨ ∃ field ∈ fields, j ∈ field.2.parts := by
  have hfields : j ∈ partsOfFields (fields.map fun (k, v) => (k.toList, v)) ↔
      ∃ field ∈ fields, j ∈ field.2.parts := by
    induction fields with
    | nil => simp [partsOfFields]
    | cons field fields ih =>
      rw [List.map_cons, partsOfFields, List.mem_append, ih, List.exists_mem_cons_iff, partsOfField]
  rw [record, parts, List.mem_cons, hfields]

/-- A list of texts holds neither nulls nor keys. -/
theorem Json.keepsTo_texts (names : List Text) (ts : List Text) : (texts ts).KeepsTo names where
  noNull h := by
    rcases mem_parts_texts.mp h with h | ⟨t, -, h⟩ <;> cases h
  keys part hpart key hkey := by
    rcases mem_parts_texts.mp hpart with rfl | ⟨t, -, rfl⟩ <;> cases hkey

/-- A record keeps to some names if its fields do and are called by them. -/
theorem Json.keepsTo_record {names : List Text} {fields : List (String × Json)}
    (h : ∀ field ∈ fields, field.1.toList ∈ names ∧ field.2.KeepsTo names) :
    (record fields).KeepsTo names where
  noNull hnull := by
    rcases mem_parts_record.mp hnull with hnull | ⟨field, hfield, hnull⟩
    · cases hnull
    · exact (h field hfield).2.noNull hnull
  keys part hpart key hkey := by
    rcases mem_parts_record.mp hpart with rfl | ⟨field, hfield, hpart⟩
    · simp only [record, keys, List.map_map, List.mem_map, Function.comp_apply] at hkey
      obtain ⟨field, hfield, rfl⟩ := hkey
      exact (h field hfield).1
    · exact (h field hfield).2.keys part hpart key hkey

/-- The names by which the search backend calls the sections and their lists. -/
def backendNames : List Text :=
  ["skillsKeywords", "items", "job", "titles", "company", "names", "location", "currentLocations",
    "general"].map String.toList

/-- A section with one list keeps to the names of the backend. -/
theorem keepsTo_list {name : String} (hname : name.toList ∈ backendNames) (ts : List Text) :
    (Json.record [(name, .texts ts)]).KeepsTo backendNames :=
  Json.keepsTo_record (List.forall_mem_singleton.mpr ⟨hname, Json.keepsTo_texts _ ts⟩)

/-- **What is sent holds no null** and no other names than those of the backend. -/
theorem SearchFilters.keepsTo_payload (f : SearchFilters) : f.payload.KeepsTo backendNames := by
  have hsection : ∀ {α : Type} {key : String} {write : α → Json} (o : Option α),
      key.toList ∈ backendNames → (∀ v, (write v).KeepsTo backendNames) →
      ∀ field ∈ (o.map fun s => (key, write s)).toList,
        field.1.toList ∈ backendNames ∧ field.2.KeepsTo backendNames := by
    intro α key write o hkey hwrite field hfield
    obtain ⟨v, -, rfl⟩ := Option.map_eq_some_iff.mp (Option.mem_toList.mp hfield)
    exact ⟨hkey, hwrite v⟩
  apply Json.keepsTo_record
  simp only [sections, List.forall_mem_append]
  refine ⟨⟨⟨⟨hsection _ (by decide) fun v => ?_, hsection _ (by decide) fun v => ?_⟩,
    hsection _ (by decide) fun v => ?_⟩, hsection _ (by decide) fun v => ?_⟩,
    hsection _ (by decide) fun v => ?_⟩
  · exact keepsTo_list (by decide) v.items
  · exact keepsTo_list (by decide) v.titles
  · exact keepsTo_list (by decide) v.names
  · exact keepsTo_list (by decide) v.currentLocations
  · exact Json.keepsTo_record (by simp)

/-! ## Records of every kind -/

/-- A record of some kind that was read survives if the values of that kind do. -/
theorem AnyRecord.survives_of_map {α : Type} {read : Part → Checked α} {make : α → AnyRecord}
    {p : Part} {r : AnyRecord} (h : (read p).map make = .good r)
    (hsurvives : ∀ v, read p = .good v → Survives read (fun v => (make v).toJson) v) :
    (read r.toJson.toDocument.whole).map make = .good r := by
  obtain ⟨v, hv, rfl⟩ := Checked.map_eq_good h
  rw [hsurvives v hv]
  rfl

/-- **Records survive their own serialisation.**  A record of any kind that was read from some
document is read again from its own JSON, and filters also from what is sent to the search backend,
which holds no null and no other names than those of the backend. -/
theorem AnyRecord.read_toJson_of_read :
    (∀ (kind : RecordKind) (p : Part) (r : AnyRecord), AnyRecord.read kind p = .good r →
      AnyRecord.read kind r.toJson.toDocument.whole = .good r) ∧
    ∀ f : SearchFilters, f.payload.KeepsTo backendNames ∧
      SearchFilters.read f.payload.toDocument.whole = .good f := by
  refine ⟨fun kind p r h => ?_, fun f => ⟨f.keepsTo_payload, f.survives_payload⟩⟩
  cases kind with
  | parserConfig => exact survives_of_map h fun v _ => v.survives
  | displayConfig =>
    exact survives_of_map h fun v hv =>
      HighlightClasses.survives (HighlightClasses.areNames_of_read hv)
  | settings => exact survives_of_map h fun v hv => Settings.survives (Settings.areNames_of_read hv)
  | fieldOperators => exact survives_of_map h fun v _ => v.survives
  | parsedQuery => exact survives_of_map h fun v _ => v.survives
  | validationResult => exact survives_of_map h fun v _ => v.survives
  | skillsKeywordsFilter => exact survives_of_map h fun v _ => v.survives
  | jobFilter => exact survives_of_map h fun v _ => v.survives
  | companyFilter => exact survives_of_map h fun v _ => v.survives
  | locationFilter => exact survives_of_map h fun v _ => v.survives
  | generalFilter => exact survives_of_map h fun v _ => v.survives
  | searchFilters => exact survives_of_map h fun v _ => v.survives
  | compiledQuery => exact survives_of_map h fun v _ => v.survives

/-- Settings with blanks around a class, a flag in words, and a key that no field goes by. -/
def looseSettings : Json :=
  .record [("parser", .record [("exclude_negated_terms", .text "YES".toList)]),
    ("display", .record [("field_class", .text "  x ".toList)]), ("theme", .null)]

/-- What is stored of the loose settings. -/
def storedSettings : Settings where
  parser := ⟨true⟩
  display := { field := ['x'] }

/-- Loose settings are read, and what is stored of them is read again. -/
theorem AnyRecord.read_toJson_of_read_looseSettings :
    AnyRecord.read .settings looseSettings.toDocument.whole = .good (.settings storedSettings) ∧
      AnyRecord.read .settings storedSettings.toJson.toDocument.whole
        = .good (.settings storedSettings) := by
  have hread : AnyRecord.read .settings looseSettings.toDocument.whole
      = .good (.settings storedSettings) := rfl
  exact ⟨hread, AnyRecord.read_toJson_of_read.1 .settings _ _ hread⟩

end CandidateSearch

import CandidateSearch.CommandLine.Run

/-!
# Settings that cannot be read

A run with a settings file reads the settings before it answers.  Of what can go wrong the command
line reports a missing file, octets that are no text, a number or date out of range, and settings
that are not valid.  The rest escapes: a path that cannot be opened as a file, and a text that is not
YAML.

* `readSettings_unreported_iff`: which paths give a fault that is not reported;
* `run_of_forbidden`: a character that YAML does not allow is such a fault;
* `settings_fault_reported`: how a run with a settings file ends.
-/

namespace CandidateSearch

/-! ## Faults that escape -/

/-- The fault is one that the command line does not catch: every fault of a text as YAML but a number
or a date out of range. -/
def Yaml.Fault.Escapes (fault : Yaml.Fault) : Prop := ∀ v, fault ≠ .badValue v

/-- What a path leads to cannot be read, and the command line does not catch this: a directory, a
path that is too long, or a text with such a fault. -/
def FileState.Escapes : FileState → Prop
  | .missing => False
  | .directory => True
  | .tooLong => True
  | .file octets =>
    ∃ t fault, decodeUtf8 octets = .ok t ∧ Yaml.load (withLineFeeds t) = .error fault ∧
      fault.Escapes

/-- A fault of YAML is reported unless it escapes. -/
theorem report_notYaml_eq_none_iff {fault : Yaml.Fault} :
    (LoadFault.notYaml fault).report = none ↔ fault.Escapes := by
  constructor
  · rintro h v rfl
    cases h
  · intro h
    cases fault with
    | badValue v => exact absurd rfl (h v)
    | _ => rfl

/-- What is wrong with the value of a text is always reported. -/
theorem report_ne_none_of_document {p : Part} {fault : LoadFault}
    (h : settingsOfDocument p = .error fault) : fault.report ≠ none := by
  unfold settingsOfDocument at h
  cases hread : Settings.read (if p.content.isVoid then p.sibling (.mapping []) else p) with
  | good s =>
    rw [hread] at h
    cases h
  | bad issues =>
    rw [hread] at h
    cases h
    intro hreport
    cases hreport

/-- Octets that are no text give no settings. -/
theorem settingsOfOctets_ne_ok {octets : List UInt8} (h : ∀ t, decodeUtf8 octets ≠ .ok t)
    (settings : Settings) : settingsOfOctets octets ≠ .ok settings := by
  rw [settingsOfOctets]
  cases hdecode : decodeUtf8 octets with
  | error e => simp
  | ok t => exact absurd hdecode (h t)

/-- **Which octets give a fault that is not reported**: those of a text with a fault that escapes. -/
theorem settingsOfOctets_unreported_iff (octets : List UInt8) :
    (∃ fault, settingsOfOctets octets = .error fault ∧ fault.report = none) ↔
      (FileState.file octets).Escapes := by
  have hescapes : (FileState.file octets).Escapes ↔ ∃ t fault, decodeUtf8 octets = .ok t ∧
      Yaml.load (withLineFeeds t) = .error fault ∧ fault.Escapes := Iff.rfl
  rw [hescapes, settingsOfOctets]
  cases hdecode : decodeUtf8 octets with
  | error e => simp [LoadFault.report]
  | ok t =>
    cases hload : Yaml.load (withLineFeeds t) with
    | error fault => simp [hload, report_notYaml_eq_none_iff]
    | ok p =>
      simp only [Except.ok.injEq, exists_and_left, exists_eq_left', hload, reduceCtorEq, false_and,
        exists_false, iff_false]
      rintro ⟨fault, hfault, hreport⟩
      exact report_ne_none_of_document hfault hreport

/-- **Which paths give a fault that is not reported.** -/
theorem readSettings_unreported_iff (path : Text) (state : FileState) :
    (∃ fault, readSettings path state = .error fault ∧ fault.report = none) ↔ state.Escapes := by
  cases state with
  | missing => simp [readSettings, LoadFault.report, FileState.Escapes]
  | directory => simp [readSettings, LoadFault.report, FileState.Escapes]
  | tooLong => simp [readSettings, LoadFault.report, FileState.Escapes]
  | file octets => exact settingsOfOctets_unreported_iff octets

/-! ## Texts that are not YAML -/

/-- Ends of lines are written anew, every other character stays. -/
theorem mem_withLineFeeds {c : Char} {t : Text} (hc : c ≠ '\r') (h : c ∈ t) :
    c ∈ withLineFeeds t := by
  fun_induction withLineFeeds t with
  | case1 rest ih =>
    rw [List.mem_cons, List.mem_cons, or_iff_right hc] at h
    exact List.mem_cons.mpr (h.imp_right ih)
  | case2 rest hnot ih =>
    rw [List.mem_cons, or_iff_right hc] at h
    exact List.mem_cons_of_mem _ (ih h)
  | case3 d rest hnot hnot' ih => exact List.mem_cons.mpr ((List.mem_cons.mp h).imp_right ih)
  | case4 => cases h

/-- **A text with a character that YAML does not allow is not YAML.** -/
theorem Yaml.load_of_forbidden {t : Text} {c : Char} (h : c ∈ t) (hc : Yaml.isAllowed c = false) :
    Yaml.load t = .error .forbiddenCharacter := by
  have htokens : Yaml.tokensOf t = ⟨[], some .forbiddenCharacter⟩ := by
    rw [Yaml.tokensOf, if_pos]
    rw [List.any_eq_true]
    exact ⟨c, h, by simp [hc]⟩
  rw [Yaml.load, htokens]
  rfl

/-- The settings of a file whose text holds a character that YAML does not allow. -/
theorem settingsOfOctets_of_forbidden {octets : List UInt8} {t : Text} {c : Char}
    (hdecode : decodeUtf8 octets = .ok t) (h : c ∈ t) (hc : Yaml.isAllowed c = false) :
    settingsOfOctets octets = .error (.notYaml .forbiddenCharacter) := by
  have hne : c ≠ '\r' := by
    rintro rfl
    cases hc
  simp only [settingsOfOctets, hdecode, Yaml.load_of_forbidden (mem_withLineFeeds hne h) hc]

/-! ## Runs with a settings file -/

namespace CommandLine

/-- The report of a run that has no settings, with the reason in words. -/
def loadReport (words : Text) : Report where
  exit := 1
  stderr := "Error loading config: ".toList ++ words ++ ['\n']

section Run

variable {args : List Text} {r : Request} {path : Text} (look : Text → FileState)
  (hargs : readArguments args = .run r) (hconfig : r.config = some path)

include hargs hconfig

/-- With the settings of a file, a run answers. -/
theorem run_of_settings {settings : Settings} (h : readSettings path (look path) = .ok settings) :
    run args look = .exited (runRequest r settings) := by
  simp only [run, hargs, Request.settings, hconfig, h]

/-- Without settings, a run says why if it can. -/
theorem run_of_fault {fault : LoadFault} (h : readSettings path (look path) = .error fault) :
    run args look
      = match fault.report with
        | some words => .exited (loadReport words)
        | none => .brokenOff fault := by
  simp only [run, hargs, Request.settings, hconfig, h]
  cases fault.report <;> rfl

/-- **A settings file with a character that YAML does not allow** breaks every run off. -/
theorem run_of_forbidden {octets : List UInt8} {t : Text} {c : Char}
    (hfile : look path = .file octets) (hdecode : decodeUtf8 octets = .ok t) (h : c ∈ t)
    (hc : Yaml.isAllowed c = false) :
    run args look = .brokenOff (.notYaml .forbiddenCharacter) := by
  have hread : readSettings path (look path) = .error (.notYaml .forbiddenCharacter) := by
    rw [hfile]
    exact settingsOfOctets_of_forbidden hdecode h hc
  exact run_of_fault look hargs hconfig hread

/-- **How a run with a settings file ends.**  If the file gives settings, the run answers; if it
gives none, the run says why, with exit status one and nothing written but that; and it breaks off
exactly if what the path leads to has a fault that escapes. -/
theorem settings_fault_reported :
    (∀ settings, readSettings path (look path) = .ok settings →
        run args look = .exited (runRequest r settings)) ∧
      ((∀ settings, readSettings path (look path) ≠ .ok settings) → ¬ (look path).Escapes →
        ∃ fault words, readSettings path (look path) = .error fault ∧ fault.report = some words ∧
          run args look = .exited (loadReport words)) ∧
      ((∃ fault, run args look = .brokenOff fault) ↔ (look path).Escapes) := by
  have hescapes := readSettings_unreported_iff path (look path)
  refine ⟨fun settings => run_of_settings look hargs hconfig, ?_, ?_⟩
  · intro hnone hcaught
    cases hread : readSettings path (look path) with
    | ok settings => exact absurd hread (hnone settings)
    | error fault =>
      cases hreport : fault.report with
      | none => exact absurd (hescapes.mp ⟨fault, hread, hreport⟩) hcaught
      | some words =>
        refine ⟨fault, words, rfl, hreport, ?_⟩
        rw [run_of_fault look hargs hconfig hread, hreport]
  · rw [← hescapes]
    cases hread : readSettings path (look path) with
    | ok settings => simp [run_of_settings look hargs hconfig hread]
    | error fault =>
      rw [run_of_fault look hargs hconfig hread]
      cases hreport : fault.report <;> simp [hreport]

end Run

/-- Arguments that ask for a query to be parsed with the settings at a path. -/
def parseArguments (path : Text) : List Text :=
  ["parse".toList, "+Keywords:Rust".toList, "--config".toList, path]

/-- What the arguments with the path `conf` ask for. -/
def parseRequest : Request where
  command := .parse
  query := some "+Keywords:Rust".toList
  config := some "conf".toList

/-- The request is read from its arguments. -/
theorem readArguments_conf : readArguments (parseArguments "conf".toList) = .run parseRequest := by
  decide +kernel

/-- Nothing, octets that are no text, and a directory: the first two are reported. -/
theorem settings_fault_reported_conf :
    (∃ words, run (parseArguments "conf".toList) (fun _ => .missing)
        = .exited (loadReport words)) ∧
      (∃ words, run (parseArguments "conf".toList) (fun _ => .file [0x61, 0xFF])
        = .exited (loadReport words)) ∧
      ∃ fault, run (parseArguments "conf".toList) (fun _ => .directory) = .brokenOff fault := by
  have hconfig : parseRequest.config = some "conf".toList := rfl
  refine ⟨?_, ?_, ?_⟩
  · obtain ⟨-, hfault, -⟩ :=
      settings_fault_reported (fun _ => .missing) readArguments_conf hconfig
    obtain ⟨-, words, -, -, hrun⟩ := hfault (fun settings h => by cases h) id
    exact ⟨words, hrun⟩
  · have hdecode : (decodeUtf8 [0x61, 0xFF]).toOption = none := by decide +kernel
    have hnot : ∀ t, decodeUtf8 [0x61, 0xFF] ≠ .ok t := by
      intro t ht
      rw [ht] at hdecode
      cases hdecode
    obtain ⟨-, hfault, -⟩ :=
      settings_fault_reported (fun _ => .file [0x61, 0xFF]) readArguments_conf hconfig
    obtain ⟨-, words, -, -, hrun⟩ := hfault (settingsOfOctets_ne_ok hnot) fun h => by
      obtain ⟨t, -, ht, -⟩ := h
      exact hnot t ht
    exact ⟨words, hrun⟩
  · obtain ⟨-, -, hbroken⟩ :=
      settings_fault_reported (fun _ => .directory) readArguments_conf hconfig
    exact hbroken.mpr trivial

/-- **Some faults of settings are not reported**: a run breaks off whose settings lie at a
directory. -/
theorem exists_unreported_fault :
    ¬ ∀ (args : List Text) (r : Request) (path : Text) (look : Text → FileState),
      readArguments args = .run r → r.config = some path →
        (∀ settings, readSettings path (look path) ≠ .ok settings) →
          ∃ words, run args look = .exited (loadReport words) := by
  intro h
  obtain ⟨words, hwords⟩ := h (parseArguments "conf".toList) parseRequest "conf".toList
    (fun _ => .directory) readArguments_conf rfl fun settings hread => by cases hread
  have hrun : run (parseArguments "conf".toList) (fun _ => .directory) = .brokenOff .directory :=
    run_of_fault (fun _ => .directory) readArguments_conf rfl rfl
  rw [hrun] at hwords
  cases hwords

end CommandLine

end CandidateSearch

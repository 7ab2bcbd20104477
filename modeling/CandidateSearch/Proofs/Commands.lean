import CandidateSearch.CommandLine.Run
import CandidateSearch.Proofs.Decoding
import CandidateSearch.Proofs.Output

/-!
# Commands answer what the library says

A query on the command line is taken as it is, if it does not begin with a hyphen.  The commands that
check, parse and compile it end with the status that validation decides, report its errors and
nothing else, and print JSON text that denotes what the library gives.

* `readArguments_query`, `readArguments_force`: what the arguments ask for;
* `run_validate`, `run_parse`, `run_compile`: one command each;
* `commands_agree`: all of them together, for every query.
-/

namespace CandidateSearch.CommandLine

/-! ## Arguments -/

section Arguments

variable {query : Text} (hquery : query.head? ≠ some '-')

include hquery

/-- A word that does not begin with a hyphen is no option. -/
theorem classify_positional (names : List (Text × Switch)) :
    classify names query = .ok (.positional query) := by
  unfold classify
  split
  split
  · exact absurd rfl hquery
  · rfl

/-- Nor are it two hyphens. -/
theorem ne_separator : query ≠ ['-', '-'] := by
  rintro rfl
  exact hquery rfl

end Arguments

/-- The word for a command does not begin with a hyphen. -/
theorem head?_name (c : Command) : c.name.head? ≠ some '-' := by
  cases c <;> decide

/-- The word for a command names it. -/
theorem named?_name (c : Command) : Command.named? c.name = some c := by
  cases c <;> decide

/-- The word for a command comes first, and its arguments follow. -/
theorem readArguments_command (c : Command) (args : List Text) :
    readArguments (c.name :: args) = readCommand [] c args := by
  rw [readArguments, readFrom, if_neg (ne_separator (head?_name c)),
    classify_positional (head?_name c)]
  simp only [named?_name]

section Arguments

variable {query : Text} (hquery : query.head? ≠ some '-')

include hquery

/-- **A command with its query.** -/
theorem readArguments_query {c : Command} (hc : c.takesQuery = true) :
    readArguments [c.name, query] = .run { command := c, query := some query } := by
  have hwords : classifyAll (namesOf c.switches) [query] = .ok [.positional query] := by
    rw [classifyAll, if_neg (ne_separator hquery), classify_positional hquery]
    rfl
  have hread : readWords { request := { command := c } } [.positional query]
      = .ok { request := { command := c, query := some query } } := by
    rw [readWords, if_pos (by simp [awaitsQuery, hc]), readWords]
    simp
  rw [readArguments_command, readCommand, hwords]
  simp only [hread]
  simp [awaitsQuery]

/-- **A query that is to be compiled in any case.** -/
theorem readArguments_force :
    readArguments [Command.compile.name, query, "--force".toList]
      = .run { command := .compile, query := some query, force := true } := by
  let force : Word := .option ⟨"--force".toList, some (.force, "--force".toList), none⟩
  have hwords : classifyAll (namesOf Command.compile.switches) [query, "--force".toList]
      = .ok [.positional query, force] := by
    rw [classifyAll, if_neg (ne_separator hquery), classify_positional hquery]
    rfl
  have hread : readWords { request := { command := .compile } } [.positional query, force]
      = .ok { request := { command := .compile, query := some query, force := true } } := rfl
  rw [readArguments_command, readCommand, hwords]
  simp only [hread]
  simp [awaitsQuery]

end Arguments

/-! ## Reports -/

/-- Without a settings file, a request is answered with the built-in settings. -/
theorem run_of_request {args : List Text} {r : Request} (look : Text → FileState)
    (hargs : readArguments args = .run r) (hconfig : r.config = none) :
    run args look = .exited (runRequest r {}) := by
  simp only [run, hargs, Request.settings, hconfig]

/-- A query is valid exactly if it has no errors. -/
theorem isValid_validate (query : Text) :
    (validate query).isValid = (validate query).errors.isEmpty := by
  rw [validate, Findings.report, List.isEmpty_map]

/-- Errors in words, each on a line. -/
def errorReport (errors : List Text) : Text :=
  errors.flatMap fun e => "Error: ".toList ++ e ++ ['\n']

theorem errorLines_eq_errorReport (errors : List Text) : errorLines errors = errorReport errors := by
  rw [errorLines, lines, List.flatMap_map, errorReport]

/-- **What compiling a query writes**: its payload, unless it has errors and is not forced, and its
errors. -/
theorem runCompile_eq (query : Text) (force : Bool) :
    runCompile query {} false force
      = if (validate query).errors = [] ∨ force = true then
          { exit := 0
            stdout := (compileQuery query false).filters.payload.print ++ ['\n']
            stderr := errorReport (validate query).errors }
        else { exit := 1, stderr := errorReport (validate query).errors } := by
  have hvalid : (compileQuery query false).validation.isValid
      = (validate query).errors.isEmpty := isValid_validate query
  have herrors : (compileQuery query false).validation.errors = (validate query).errors := rfl
  simp only [runCompile, hvalid, herrors, errorLines_eq_errorReport, logLines]
  cases (validate query).errors with
  | nil => rfl
  | cons e errors => cases force <;> rfl

/-- JSON text on a line denotes its value. -/
theorem decode?_line (j : Json) : Json.decode? (j.print ++ ['\n']) = some j :=
  Json.decode?_print_append j (Text.forall_mem_of_all (by decide))

/-- A parsed query holds the query itself. -/
theorem get?_raw_query (query : Text) (excludeNegated : Bool) :
    (parse query excludeNegated).toJson.get? "raw_query" = some (.text query) := rfl

section Runs

variable {query : Text} (hquery : query.head? ≠ some '-') (look : Text → FileState)

include hquery

/-- **Checking a query** ends with status one exactly if the query has errors. -/
theorem run_validate :
    ∃ r, run ["validate".toList, query] look = .exited r ∧
      r.exit = if (validate query).errors = [] then 0 else 1 := by
  refine ⟨_, run_of_request look (readArguments_query hquery (c := .validate) rfl) rfl, ?_⟩
  show (if (validate query).isValid then 0 else 1) = _
  rw [isValid_validate]
  simp

/-- **Parsing a query** always succeeds and prints what the query parses to. -/
theorem run_parse :
    ∃ r, run ["parse".toList, query] look = .exited r ∧ r.exit = 0 ∧
      Json.decode? r.stdout = some (parse query false).toJson := by
  refine ⟨_, run_of_request look (readArguments_query hquery (c := .parse) rfl) rfl, rfl, ?_⟩
  exact decode?_line (parse query false).toJson

/-- **Compiling a query** reports the errors of the query, or prints its payload if there are none. -/
theorem run_compile :
    ∃ r, run ["compile".toList, query] look = .exited r ∧
      ((validate query).errors ≠ [] →
        r = { exit := 1, stdout := [], stderr := errorReport (validate query).errors }) ∧
      ((validate query).errors = [] → r.exit = 0 ∧ r.stderr = [] ∧
        Json.decode? r.stdout = some (compileQuery query false).filters.payload) := by
  have hrun := run_of_request look (readArguments_query hquery (c := .compile) rfl) rfl
  have hreport := runCompile_eq query false
  refine ⟨runCompile query {} false false, hrun, ?_, ?_⟩
  · intro herrors
    rw [hreport, if_neg (by simpa using herrors)]
  · intro herrors
    rw [hreport, if_pos (Or.inl herrors), herrors]
    exact ⟨rfl, rfl, decode?_line _⟩

/-- **Compiling a query in any case** prints its payload and reports its errors. -/
theorem run_compile_force :
    ∃ r, run ["compile".toList, query, "--force".toList] look = .exited r ∧ r.exit = 0 ∧
      r.stderr = errorReport (validate query).errors ∧
      Json.decode? r.stdout = some (compileQuery query false).filters.payload := by
  have hrun := run_of_request look (readArguments_force hquery) rfl
  refine ⟨runCompile query {} false true, hrun, ?_⟩
  rw [runCompile_eq, if_pos (Or.inr rfl)]
  exact ⟨rfl, rfl, decode?_line _⟩

/-- **The command line agrees with the library**, for every query that does not begin with a hyphen.
Checking it ends with status one exactly if it has errors.  Compiling it reports the errors, one a
line, and prints nothing; without errors, or if forced, it prints JSON text that denotes the payload.
Parsing it prints JSON text that denotes the parsed query, which holds the query itself. -/
theorem commands_agree :
    (∃ r, run ["validate".toList, query] look = .exited r ∧
        r.exit = if (validate query).errors = [] then 0 else 1) ∧
      (∃ r, run ["compile".toList, query] look = .exited r ∧
        ((validate query).errors ≠ [] →
          r = { exit := 1, stdout := [], stderr := errorReport (validate query).errors }) ∧
        ((validate query).errors = [] → r.exit = 0 ∧ r.stderr = [] ∧
          Json.decode? r.stdout = some (compileQuery query false).filters.payload)) ∧
      (∃ r, run ["compile".toList, query, "--force".toList] look = .exited r ∧ r.exit = 0 ∧
        r.stderr = errorReport (validate query).errors ∧
        Json.decode? r.stdout = some (compileQuery query false).filters.payload) ∧
      (∃ r, run ["parse".toList, query] look = .exited r ∧ r.exit = 0 ∧
        Json.decode? r.stdout = some (parse query false).toJson ∧
        (parse query false).toJson.get? "raw_query" = some (.text query)) := by
  obtain ⟨r, hrun, hexit, hdecode⟩ := run_parse hquery look
  exact ⟨run_validate hquery look, run_compile hquery look, run_compile_force hquery look,
    r, hrun, hexit, hdecode, get?_raw_query query false⟩

end Runs

/-- A query with a quoted backslash, a control character and a character of the last planes. -/
def oddQuery : Text :=
  "+Keywords:(\"a\\b\" ".toList ++ [Char.ofNat 7, Char.ofNat 0x1F600] ++ [')']

/-- The odd query is compiled, and what is printed denotes its two terms as they are. -/
theorem commands_agree_oddQuery :
    ∃ r, run ["compile".toList, oddQuery] (fun _ => .missing) = .exited r ∧ r.exit = 0 ∧
      Json.decode? r.stdout = some (.record [("skillsKeywords", .record
        [("items", .texts ["a\\b".toList, [Char.ofNat 7, Char.ofNat 0x1F600]])])]) := by
  have hquery : oddQuery.head? ≠ some '-' := by decide
  have herrors : (validate oddQuery).errors = [] := by decide +kernel
  have hterms : (parse oddQuery false).terms
      = { keywords := ["a\\b".toList, [Char.ofNat 7, Char.ofNat 0x1F600]] } := by
    decide +kernel
  have hpayload : (compileQuery oddQuery false).filters.payload
      = .record [("skillsKeywords", .record
        [("items", .texts ["a\\b".toList, [Char.ofNat 7, Char.ofNat 0x1F600]])])] := by
    show (compileFilters (parse oddQuery false)).payload = _
    rw [compileFilters, hterms]
    rfl
  obtain ⟨-, ⟨r, hrun, -, hvalid⟩, -, -⟩ := commands_agree hquery fun _ => .missing
  obtain ⟨hexit, -, hdecode⟩ := hvalid herrors
  exact ⟨r, hrun, hexit, hdecode.trans (congrArg some hpayload)⟩

end CandidateSearch.CommandLine

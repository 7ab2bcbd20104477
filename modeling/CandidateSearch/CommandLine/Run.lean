import CandidateSearch.CommandLine.Usage
import CandidateSearch.Json.Print
import CandidateSearch.Query.Examples
import CandidateSearch.Query.Record
import CandidateSearch.Query.Trace
import CandidateSearch.SettingsFile

/-!
# Running commands

A run reads its arguments, then the settings, and then answers.  It ends with an exit status and
what it has written, or it breaks off because a settings file cannot be used in a way that is not
reported.
-/

namespace CandidateSearch.CommandLine

/-- What a run has written, and its exit status. -/
structure Report where
  exit : Nat
  stdout : Text := []
  stderr : Text := []
  deriving DecidableEq, Repr

/-- How a run ends. -/
inductive Ending where
  | exited (r : Report)
  | brokenOff (fault : LoadFault)

/-- Texts, each on a line of its own. -/
def lines (ts : List Text) : Text := ts.flatMap fun t => t ++ ['\n']

/-- What a run notes on the way, if it is asked to say so. -/
def logLines (verbose : Bool) (events : List Event) : Text :=
  if verbose then lines (events.map Event.line) else []

/-- The errors of a query, each on a line. -/
def errorLines (errors : List Text) : Text := lines (errors.map ("Error: ".toList ++ ·))

/-- Check a query. -/
def runValidate (query : Text) (verbose : Bool) : Report :=
  let result := validate query
  { exit := if result.isValid then 0 else 1
    stdout := errorLines result.errors ++ lines (result.warnings.map ("Warning: ".toList ++ ·))
      ++ if result.isValid then "Query is valid.\n".toList else []
    stderr := logLines verbose (traceValidate query) }

/-- Print a parsed query. -/
def runParse (query : Text) (settings : Settings) (verbose : Bool) : Report :=
  let excludeNegated := settings.parser.excludeNegatedTerms
  { exit := 0
    stdout := (parse query excludeNegated).toJson.print ++ ['\n']
    stderr := logLines verbose (traceParse query excludeNegated) }

/-- Print the filters for a query, for an invalid one only if forced. -/
def runCompile (query : Text) (settings : Settings) (verbose force : Bool) : Report :=
  let excludeNegated := settings.parser.excludeNegatedTerms
  let compiled := compileQuery query excludeNegated
  let isValid := compiled.validation.isValid
  { exit := if isValid || force then 0 else 1
    stdout := if isValid || force then compiled.filters.payload.print ++ ['\n'] else []
    stderr := logLines verbose (traceCompile query excludeNegated)
      ++ if isValid then [] else errorLines compiled.validation.errors }

/-- Do what is asked for. -/
def runRequest (r : Request) (settings : Settings) : Report :=
  let query := r.query.getD []
  match r.command with
  | .validate => runValidate query r.verbose
  | .parse => runParse query settings r.verbose
  | .compile => runCompile query settings r.verbose r.force
  | .highlight => { exit := 0, stdout := highlight query settings.display ++ ['\n'] }
  | .examples => { exit := 0, stdout := lines exampleQueries }

/-- The settings that a request asks for: those of a file, or the built-in ones. -/
def Request.settings (r : Request) (look : Text → FileState) : Except LoadFault Settings :=
  match r.config with
  | none => .ok {}
  | some path => readSettings path (look path)

/-- Run the program with these arguments, where `look` says what a path leads to. -/
def run (args : List Text) (look : Text → FileState) : Ending :=
  match readArguments args with
  | .help command => .exited { exit := 0, stdout := helpText command }
  | .refuse command problem => .exited { exit := 2, stderr := refusalText command problem }
  | .run request =>
    match request.settings look with
    | .ok settings => .exited (runRequest request settings)
    | .error fault =>
      match fault.report with
      | some t =>
        .exited { exit := 1, stderr := "Error loading config: ".toList ++ t ++ ['\n'] }
      | none => .brokenOff fault

end CandidateSearch.CommandLine

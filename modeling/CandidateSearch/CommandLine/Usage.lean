import CandidateSearch.CommandLine.Arguments

/-!
# Usage and help

The lines that say how the program and its commands are called.
-/

namespace CandidateSearch.CommandLine

/-- The name of the program, or of one of its commands. -/
def programName (command : Option Command) : Text :=
  match command with
  | none => "main.py".toList
  | some c => "main.py ".toList ++ c.name

/-- The commands between braces. -/
def commandChoice : Text :=
  '\x7b' :: List.intercalate [','] (Command.all.map Command.name) ++ ['\x7d']

/-- An option in a usage line. -/
def Switch.usage : Switch → Text
  | .help => "[-h]".toList
  | .config => "[--config CONFIG]".toList
  | .verbose => "[--verbose]".toList
  | .force => "[--force]".toList

/-- The line that says how the program or a command is called. -/
def usageLine (command : Option Command) : Text :=
  let arguments : List Text :=
    match command with
    | none => mainSwitches.map Switch.usage ++ [commandChoice, "...".toList]
    | some c => c.switches.map Switch.usage ++ if c.takesQuery then ["query".toList] else []
  "usage: ".toList ++ List.intercalate [' '] (programName command :: arguments) ++ ['\n']

/-- An indented entry of the help: a term, filled up to a column, and what it means. -/
def helpEntry (indent column : Nat) (term meaning : String) : Text :=
  let start := List.replicate indent ' ' ++ term.toList
  start ++ List.replicate (column - start.length) ' ' ++ meaning.toList ++ ['\n']

/-- What a command does. -/
def Command.meaning : Command → String
  | .validate => "Check a query for syntax errors"
  | .parse => "Print the parsed query as JSON"
  | .compile => "Print the search filter payload as JSON"
  | .highlight => "Print the query as highlighted HTML"
  | .examples => "List example queries"

/-- An option in the help of a command. -/
def Switch.helpEntry : Switch → Text
  | .help => CommandLine.helpEntry 2 19 "-h, --help" "show this help message and exit"
  | .config =>
    CommandLine.helpEntry 2 19 "--config CONFIG"
      "Path to settings YAML file (default: built-in settings)"
  | .verbose => CommandLine.helpEntry 2 19 "--verbose, -v" "Enable verbose (DEBUG) logging"
  | .force =>
    CommandLine.helpEntry 2 19 "--force" "Compile even when validation reports errors"

/-- The help of the program. -/
def mainHelp : Text :=
  usageLine none
    ++ "\nBoolean search query language - validate, parse and compile queries\n".toList
    ++ "\npositional arguments:\n  ".toList ++ commandChoice ++ ['\n']
    ++ (Command.all.flatMap fun c => helpEntry 4 24 (String.ofList c.name) c.meaning)
    ++ "\noptions:\n".toList
    ++ helpEntry 2 24 "-h, --help" "show this help message and exit"

/-- The help of a command. -/
def Command.help (c : Command) : Text :=
  usageLine (some c)
    ++ (if c.takesQuery then
        "\npositional arguments:\n".toList ++ helpEntry 2 19 "query" "Raw boolean query"
      else [])
    ++ "\noptions:\n".toList ++ c.switches.flatMap Switch.helpEntry

/-- The help of the program or of a command. -/
def helpText (command : Option Command) : Text :=
  match command with
  | none => mainHelp
  | some c => c.help

/-- What is said about arguments with a problem. -/
def refusalText (command : Option Command) (problem : Problem) : Text :=
  usageLine command ++ programName command ++ ": error: ".toList ++ problem.message ++ ['\n']

end CandidateSearch.CommandLine

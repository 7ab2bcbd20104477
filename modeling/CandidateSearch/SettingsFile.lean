import CandidateSearch.Document.Display
import CandidateSearch.Files
import CandidateSearch.Settings
import CandidateSearch.Yaml.Value

/-!
# Settings files

Settings are kept in a YAML file.  `readSettings` reads them from what a path leads to, or says why
there are none; `LoadFault.report` words those faults that the command line reports.
-/

namespace CandidateSearch

/-- Why a file gives no settings. -/
inductive LoadFault where
  /-- There is no such file. -/
  | missing (path : Text)
  /-- The path leads to a directory. -/
  | directory
  /-- The path is too long to be looked up. -/
  | pathTooLong
  /-- The file is not UTF-8. -/
  | notUtf8 (error : Utf8Error)
  /-- The file is not YAML, or its YAML has no value. -/
  | notYaml (fault : Yaml.Fault)
  /-- The value is no settings. -/
  | invalid (issues : List Issue)

/-! ## Reading -/

/-- The text with every end of a line as a line feed. -/
def withLineFeeds : Text → Text
  | '\r' :: '\n' :: rest => '\n' :: withLineFeeds rest
  | '\r' :: rest => '\n' :: withLineFeeds rest
  | c :: rest => c :: withLineFeeds rest
  | [] => []

/-- The document says nothing: null, no, zero, or something empty. -/
def Document.isVoid : Document → Bool
  | .null => true
  | .bool b => !b
  | .int n => n == 0
  | .float x => x == 0.0
  | .text t => t.isEmpty
  | .bytes octets => octets.isEmpty
  | .list items => items.isEmpty
  | .mapping entries => entries.isEmpty
  | .set members => members.isEmpty
  | _ => false

/-- The settings in a document; one that says nothing gives the built-in settings. -/
def settingsOfDocument (p : Part) : Except LoadFault Settings :=
  match Settings.read (if p.content.isVoid then p.sibling (.mapping []) else p) with
  | .good s => .ok s
  | .bad issues => .error (.invalid issues)

/-- The settings in the octets of a file. -/
def settingsOfOctets (octets : List UInt8) : Except LoadFault Settings :=
  match decodeUtf8 octets with
  | .error e => .error (.notUtf8 e)
  | .ok t =>
    match Yaml.load (withLineFeeds t) with
    | .error fault => .error (.notYaml fault)
    | .ok p => settingsOfDocument p

/-- The settings in what a path leads to. -/
def readSettings (path : Text) (state : FileState) : Except LoadFault Settings :=
  match state with
  | .missing => .error (.missing (Path.ofText path).display)
  | .directory => .error .directory
  | .tooLong => .error .pathTooLong
  | .file octets => settingsOfOctets octets

/-! ## Reporting -/

/-- The fault of octets in words. -/
def Utf8Error.message (e : Utf8Error) : Text :=
  let reason : Text :=
    match e.fault with
    | .startOctet => "invalid start byte".toList
    | .continuation => "invalid continuation byte".toList
    | .truncated => "unexpected end of data".toList
  let place :=
    if e.stop = e.start + 1 then
      "byte 0x".toList ++ hexDigits 2 e.octet.toNat ++ " in position ".toList ++ natDigits e.start
    else
      "bytes in position ".toList ++ natDigits e.start ++ '-' :: natDigits (e.stop - 1)
  "'utf-8' codec can't decode ".toList ++ place ++ ": ".toList ++ reason

/-- A step into a document. -/
def PathStep.display : PathStep → Text
  | .key name => name
  | .index n => natDigits n

/-- An issue as a report shows it: the way to the part on a line of its own, then what is wrong with
it.  A line that says where further information on the problem is to be found, with which a report
may end each issue, is left out. -/
def Issue.report (i : Issue) : Text :=
  let way := List.intercalate ['.'] (i.path.map PathStep.display)
  (if way.isEmpty then [] else '\n' :: way)
    ++ "\n  ".toList ++ i.problem.message
    ++ " [type=".toList ++ i.problem.code
    ++ ", input_value=".toList ++ excerpt i.given.display
    ++ ", input_type=".toList ++ i.given.typeName ++ [']']

/-- The issues of a record. -/
def issuesReport (kind : RecordKind) (issues : List Issue) : Text :=
  natDigits issues.length
    ++ (if issues.length = 1 then " validation error for ".toList
      else " validation errors for ".toList)
    ++ kind.name ++ issues.flatMap Issue.report

/-- The fault in words, if it is one of those that are reported: a missing file, octets that are no
text, a number or date out of range, and settings that are not valid. -/
def LoadFault.report : LoadFault → Option Text
  | .missing path => some ("Config file not found: ".toList ++ path)
  | .directory => none
  | .pathTooLong => none
  | .notUtf8 e => some e.message
  | .notYaml (.badValue fault) => some fault.message
  | .notYaml _ => none
  | .invalid issues => some (issuesReport .settings issues)

end CandidateSearch

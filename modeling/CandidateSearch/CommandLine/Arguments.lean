import CandidateSearch.Text.Digit
import CandidateSearch.Text.Quoted

/-!
# Arguments of the command line

A command comes first, then its options and its query in any order.  Long options may be shortened
as long as they stay unambiguous, a value may follow an equals sign, options of one letter may be
joined, and two hyphens make everything after them positional.  `readArguments` gives what is asked
for, or the problem with the arguments.
-/

namespace CandidateSearch.CommandLine

/-! ## Commands and options -/

/-- A command of the program. -/
inductive Command where
  | validate
  | parse
  | compile
  | highlight
  | examples
  deriving DecidableEq, Repr

namespace Command

/-- Every command, in the order in which they are listed. -/
def all : List Command := [.validate, .parse, .compile, .highlight, .examples]

/-- The word for the command. -/
def name : Command → Text
  | .validate => "validate".toList
  | .parse => "parse".toList
  | .compile => "compile".toList
  | .highlight => "highlight".toList
  | .examples => "examples".toList

/-- The command with this name. -/
def named? (t : Text) : Option Command := all.find? (·.name == t)

/-- The command is about a query. -/
def takesQuery (c : Command) : Bool := c != .examples

end Command

/-- An option. -/
inductive Switch where
  | help
  | config
  | verbose
  | force
  deriving DecidableEq, Repr

namespace Switch

/-- The names of an option. -/
def names : Switch → List Text
  | .help => ["-h".toList, "--help".toList]
  | .config => ["--config".toList]
  | .verbose => ["--verbose".toList, "-v".toList]
  | .force => ["--force".toList]

/-- The option is followed by a value. -/
def takesValue (s : Switch) : Bool := s == .config

/-- All names of the option, as messages show them. -/
def label (s : Switch) : Text := List.intercalate ['/'] s.names

end Switch

/-- The options of the program itself. -/
def mainSwitches : List Switch := [.help]

/-- The options of a command. -/
def Command.switches (c : Command) : List Switch :=
  [.help, .config, .verbose] ++ if c = .compile then [.force] else []

/-- Names with the options they stand for. -/
def namesOf (switches : List Switch) : List (Text × Switch) :=
  switches.flatMap fun s => s.names.map (·, s)

/-! ## Problems -/

/-- What is wrong with the arguments. -/
inductive Problem where
  | commandMissing
  | queryMissing
  | unknownCommand (word : Text)
  | unrecognized (words : List Text)
  /-- An option lacks its value. -/
  | valueMissing (switch : Switch)
  /-- An option has a value and takes none. -/
  | valueIgnored (switch : Switch) (value : Text)
  /-- A shortened option fits several names. -/
  | ambiguous (word : Text) (names : List Text)
  deriving DecidableEq, Repr

/-- The problem in words. -/
def Problem.message : Problem → Text
  | .commandMissing => "the following arguments are required: command".toList
  | .queryMissing => "the following arguments are required: query".toList
  | .unknownCommand word =>
    "argument command: invalid choice: ".toList ++ word.quoted ++ " (choose from ".toList
      ++ commaSeparated (Command.all.map fun c => c.name.quoted) ++ [')']
  | .unrecognized words =>
    "unrecognized arguments: ".toList ++ List.intercalate [' '] words
  | .valueMissing s => "argument ".toList ++ s.label ++ ": expected one argument".toList
  | .valueIgnored s value =>
    "argument ".toList ++ s.label ++ ": ignored explicit argument ".toList ++ value.quoted
  | .ambiguous word names =>
    "ambiguous option: ".toList ++ word ++ " could match ".toList ++ commaSeparated names

/-! ## Words -/

/-- A word that is an option: one that is known, or one that is not. -/
structure OptionWord where
  written : Text
  /-- The option, if it is known, under the name that was meant. -/
  switch : Option (Switch × Text)
  /-- The value that is written together with the option. -/
  value : Option Text
  deriving DecidableEq, Repr

/-- What a word is. -/
inductive Word where
  | option (o : OptionWord)
  | positional (t : Text)
  /-- Two hyphens, behind which all is positional. -/
  | separator
  deriving DecidableEq, Repr

/-- The word as it is written. -/
def Word.written : Word → Text
  | .option o => o.written
  | .positional t => t
  | .separator => ['-', '-']

/-- A minus sign before digits, with a point in front of the last digits or without one. -/
def isNegativeNumber (t : Text) : Bool :=
  match t with
  | '-' :: rest =>
    let t := if rest.getLast? = some '\n' then rest.dropLast else rest
    match t.dropWhile isDecimalDigit with
    | [] => !t.isEmpty
    | '.' :: places => !places.isEmpty && places.all isDecimalDigit
    | _ => false
  | _ => false

/-- The parts before and after the first equals sign. -/
def splitAtEquals (t : Text) : Text × Option Text :=
  (t.takeWhile (· != '='), t.after? '=')

/-- The options that a word may mean when it is none of their names: a long name may be shortened,
and a name of one letter may have its value joined. -/
def candidates (names : List (Text × Switch)) (t : Text) : List OptionWord :=
  match t with
  | '-' :: '-' :: _ =>
    let (start, value) := splitAtEquals t
    (names.filter fun (name, _) => start.isPrefixOf name).map fun (name, s) =>
      ⟨t, some (s, name), value⟩
  | _ =>
    (names.filter fun (name, _) => name == t.take 2 || t.isPrefixOf name).map fun (name, s) =>
      ⟨t, some (s, name), if name == t.take 2 then some (t.drop 2) else none⟩

/-- What a word is, if it stands before two hyphens. -/
def classify (names : List (Text × Switch)) (t : Text) : Except Problem Word :=
  let (start, value) := splitAtEquals t
  match t with
  | '-' :: _ :: _ =>
    match names.lookup t, value, names.lookup start with
    | some s, _, _ => .ok (.option ⟨t, some (s, t), none⟩)
    | none, some value, some s => .ok (.option ⟨t, some (s, start), some value⟩)
    | none, _, _ =>
      match candidates names t with
      | [o] => .ok (.option o)
      | [] =>
        if isNegativeNumber t || t.contains ' ' then .ok (.positional t)
        else .ok (.option ⟨t, none, none⟩)
      | several => .error (.ambiguous t (several.filterMap fun o => o.switch.map (·.2)))
  | _ => .ok (.positional t)

/-- What the words are. -/
def classifyAll (names : List (Text × Switch)) : List Text → Except Problem (List Word)
  | [] => .ok []
  | t :: rest =>
    if t = ['-', '-'] then .ok (.separator :: rest.map .positional)
    else do return (← classify names t) :: (← classifyAll names rest)

/-! ## Options -/

/-- The options that letters set when they stand behind an option of one letter.  No option of one
letter takes a value. -/
def joinedLetters (names : List (Text × Switch)) (s : Switch) :
    Text → Except Problem (List (Switch × Option Text))
  | [] => .error (.valueIgnored s [])
  | letter :: rest =>
    match names.lookup ['-', letter] with
    | none => .error (.valueIgnored s (letter :: rest))
    | some next =>
      if rest.isEmpty then .ok [(s, none), (next, none)]
      else do return (s, none) :: (← joinedLetters names next rest)

/-- The options that one word sets, by the name that it begins with and what is written behind that
name. -/
def joinedSwitches (names : List (Text × Switch)) (s : Switch) (name : Text)
    (value : Option Text) : Except Problem (List (Switch × Option Text)) :=
  match value with
  | none => .ok [(s, none)]
  | some value =>
    if s.takesValue then .ok [(s, some value)]
    else if name.length = 2 then joinedLetters names s value
    else .error (.valueIgnored s value)

/-- What a command is asked to do. -/
structure Request where
  command : Command
  query : Option Text := none
  config : Option Text := none
  verbose : Bool := false
  force : Bool := false
  deriving DecidableEq, Repr

/-- What the arguments come to. -/
inductive Outcome where
  /-- Do something. -/
  | run (r : Request)
  /-- Show the help of the program or of a command. -/
  | help (command : Option Command)
  /-- The arguments of the program or of a command have a problem. -/
  | refuse (command : Option Command) (problem : Problem)
  deriving DecidableEq, Repr

/-- A request in the making, and the words that nothing was made of. -/
structure Progress where
  request : Request
  extras : List Text := []
  deriving DecidableEq, Repr

/-- A request is still in the making, or the outcome is known already. -/
abbrev Step := Except Outcome Progress

/-- Set one option. -/
def setSwitch (p : Progress) : Switch × Option Text → Step
  | (.help, _) => .error (.help p.request.command)
  | (.config, value) => .ok { p with request := { p.request with config := value } }
  | (.verbose, _) => .ok { p with request := { p.request with verbose := true } }
  | (.force, _) => .ok { p with request := { p.request with force := true } }

/-- Set options one after the other. -/
def setSwitches (p : Progress) (settings : List (Switch × Option Text)) : Step :=
  settings.foldlM setSwitch p

/-- Add words that nothing is made of. -/
def addExtras (p : Progress) (words : List Word) : Progress :=
  { p with extras := p.extras ++ words.map Word.written }

/-- The query is still to come. -/
def awaitsQuery (p : Progress) : Bool :=
  p.request.command.takesQuery && p.request.query.isNone

/-- Read the words of a command from left to right.  The first positional word is the query, two
hyphens next to it being dropped, and everything that is left over is kept. -/
def readWords (p : Progress) : List Word → Step
  | [] => .ok p
  | .option o :: rest =>
    match o.switch with
    | none => readWords (addExtras p [.option o]) rest
    | some (s, name) =>
      let refuse (problem : Problem) : Step :=
        .error (.refuse (some p.request.command) problem)
      if s.takesValue && o.value.isNone then
        match rest with
        | .positional value :: rest => do
          readWords (← setSwitch p (s, some value)) rest
        | _ => refuse (.valueMissing s)
      else
        match joinedSwitches (namesOf p.request.command.switches) s name o.value with
        | .error problem => refuse problem
        | .ok settings => do readWords (← setSwitches p settings) rest
  | .positional t :: .separator :: rest =>
    if awaitsQuery p then
      .ok (addExtras { p with request := { p.request with query := some t } } rest)
    else .ok (addExtras p (.positional t :: .separator :: rest))
  | .positional t :: rest =>
    if awaitsQuery p then
      readWords { p with request := { p.request with query := some t } } rest
    else readWords (addExtras p [.positional t]) rest
  | .separator :: .positional t :: rest =>
    if awaitsQuery p then
      .ok (addExtras { p with request := { p.request with query := some t } } rest)
    else .ok (addExtras p (.separator :: .positional t :: rest))
  | .separator :: rest => .ok (addExtras p (.separator :: rest))

/-! ## Arguments -/

/-- Read the arguments of a command.  `extras` are words in front of it that mean nothing. -/
def readCommand (extras : List Text) (command : Command) (args : List Text) : Outcome :=
  match classifyAll (namesOf command.switches) args with
  | .error problem => .refuse (some command) problem
  | .ok words =>
    match readWords { request := { command } } words with
    | .error outcome => outcome
    | .ok p =>
      if awaitsQuery p then .refuse (some command) .queryMissing
      else if (extras ++ p.extras).isEmpty then .run p.request
      else .refuse none (.unrecognized (extras ++ p.extras))

/-- Read the arguments of the program: options in front of the command are its own. -/
def readFrom (extras : List Text) : List Text → Outcome
  | [] => .refuse none .commandMissing
  | t :: rest =>
    match if t = ['-', '-'] then .ok .separator else classify (namesOf mainSwitches) t with
    | .error problem => .refuse none problem
    | .ok (.option ⟨_, none, _⟩) => readFrom (extras ++ [t]) rest
    | .ok (.option ⟨_, some (s, name), value⟩) =>
      match joinedSwitches (namesOf mainSwitches) s name value with
      | .error problem => .refuse none problem
      | .ok _ => .help none
    | .ok .separator => .refuse none (if rest.isEmpty then .commandMissing else .unknownCommand t)
    | .ok (.positional _) =>
      match Command.named? t with
      | some command => readCommand extras command rest
      | none => .refuse none (.unknownCommand t)

/-- Read the arguments of the program. -/
def readArguments (args : List Text) : Outcome := readFrom [] args

end CandidateSearch.CommandLine

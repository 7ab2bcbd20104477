import CandidateSearch.CommandLine.Run

/-!
# The program

Reads the settings file that the arguments name, runs the command, and writes what it has to say.
-/

namespace CandidateSearch.CommandLine

/-- The settings file that the arguments ask for. -/
def configOf (args : List Text) : Option Text :=
  match readArguments args with
  | .run request => request.config
  | _ => none

/-- What a path leads to when the system answers with this number: nothing is there (2), or the way
leads through a file (20) or in circles (40); a directory is there (21); the path is too long (36).
The system gives its numbers with either sign. -/
def stateOfNumber? (n : UInt32) : Option FileState :=
  match min n (0 - n) with
  | 2 | 20 | 40 => some .missing
  | 21 => some .directory
  | 36 => some .tooLong
  | _ => none

/-- What a path leads to at which reading fails, if that is a state. -/
def stateOfFailure? : IO.Error → Option FileState
  | .noFileOrDirectory _ n _ | .inappropriateType _ n _ | .invalidArgument _ n _ => stateOfNumber? n
  | _ => none

/-- What a path leads to.  A failure that is no state ends the program. -/
def lookUp (path : Text) : IO FileState := do
  try
    let octets ← IO.FS.readBinFile (String.ofList (Path.ofText path).display)
    return .file octets.toList
  catch failure =>
    match stateOfFailure? failure with
    | some state => return state
    | none => throw failure

/-- Run the program with the arguments that it is called with. -/
def runProgram (args : List String) : IO UInt32 := do
  let args := args.map String.toList
  let state ←
    match configOf args with
    | some path => lookUp path
    | none => pure FileState.missing
  match run args fun _ => state with
  | .exited report =>
    IO.print (String.ofList report.stdout)
    IO.eprint (String.ofList report.stderr)
    return UInt32.ofNat report.exit
  | .brokenOff _ =>
    IO.eprintln "The settings file cannot be read."
    return 1

end CandidateSearch.CommandLine

/-- Run the program. -/
def main (args : List String) : IO UInt32 := CandidateSearch.CommandLine.runProgram args

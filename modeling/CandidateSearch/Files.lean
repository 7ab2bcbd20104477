import CandidateSearch.Text.Utf8

/-!
# Files and paths

A path is taken apart at its slashes; empty parts and single dots mean nothing, two dots lead one
step up.  A `FileStore` is what a working directory holds, and `FileStore.look` finds what a path
leads to.
-/

namespace CandidateSearch

/-- What a path leads to.  Left out are the ways in which a system may fail at a path that leads to
something: a file that is there but may not be opened, or that breaks off while it is read, has no
state.  The program ends with such a failure before it has a state to look at. -/
inductive FileState where
  | missing
  | directory
  | file (octets : List UInt8)
  /-- The path, or a name on the way, is too long to be looked up. -/
  | tooLong
  deriving DecidableEq, Repr

/-! ## Paths -/

/-- A path: how many slashes it begins with, and its parts. -/
structure Path where
  slashes : Nat
  parts : List Text
  deriving DecidableEq, Repr

namespace Path

/-- The path that a text stands for.  Two slashes in front are kept apart from one, more are not. -/
def ofText (t : Text) : Path where
  slashes :=
    let n := (t.takeWhile (· == '/')).length
    if n = 2 then 2 else min n 1
  parts := (t.splitOn '/').filter fun part => !part.isEmpty && part != ['.']

/-- The path as it is shown; without parts it is a dot. -/
def display (p : Path) : Text :=
  if p.slashes = 0 && p.parts.isEmpty then ['.']
  else List.replicate p.slashes '/' ++ List.intercalate ['/'] p.parts

end Path

/-! ## Working directories -/

/-- The files and directories below a working directory, by their paths. -/
structure FileStore where
  entries : List (List Text × FileState)

namespace FileStore

/-- The store with these directories and files; of two files of one name the later counts. -/
def ofNames (directories : List Text) (files : List (Text × List UInt8)) : FileStore where
  entries :=
    (files.reverse.map fun (name, octets) => ((Path.ofText name).parts, FileState.file octets))
      ++ directories.map fun name => ((Path.ofText name).parts, .directory)

/-- What stands at a place; a place with something below it is a directory. -/
def stateAt (s : FileStore) (place : List Text) : FileState :=
  match s.entries.lookup place with
  | some state => state
  | none =>
    if place.isEmpty || s.entries.any fun e => place.isPrefixOf e.1 then .directory else .missing

/-- How many octets a name may have. -/
def nameLimit : Nat := 255

/-- How many octets a path may have. -/
def pathLimit : Nat := 4095

/-- What parts lead to from a directory outside of the working directory.  Nothing is known there
but that directories lie above it. -/
def outside : List Text → FileState
  | [] => .directory
  | part :: rest =>
    if part = ['.', '.'] then outside rest
    else if nameLimit < octetLength part then .tooLong
    else .missing

/-- What the parts of a path lead to from a place.  Only a directory leads further. -/
def walk (s : FileStore) (place : List Text) : List Text → FileState
  | [] => s.stateAt place
  | part :: rest =>
    match s.stateAt place with
    | .directory =>
      if part = ['.', '.'] then
        if place.isEmpty then outside rest else walk s place.dropLast rest
      else if nameLimit < octetLength part then .tooLong
      else walk s (place ++ [part]) rest
    | _ => .missing

/-- What a path leads to.  No name holds the character with code zero. -/
def look (s : FileStore) (p : Path) : FileState :=
  if p.parts.any (·.any (·.toNat == 0)) then .missing
  else if pathLimit < octetLength p.display then .tooLong
  else if p.slashes = 0 then s.walk [] p.parts
  else outside p.parts

end FileStore

end CandidateSearch

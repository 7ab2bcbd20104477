import CandidateSearch.Yaml.Cursor

/-!
# Scalars in a YAML text

A scalar is written plainly, between single or double quotes, or as a block of indented lines.  Each
reader begins at the first character of the scalar and gives its text with line ends folded, and the
cursor past it.  Between double quotes an escape may name half a character.  The loops take at most
as many rounds as characters remain.
-/

namespace CandidateSearch.Yaml

/-! ## Plain scalars -/

/-- A character that ends a plain scalar inside brackets. -/
def isFlowIndicator (c : Char) : Bool :=
  c == ',' || c == '[' || c == ']' || c == '\x7b' || c == '\x7d'

/-- How many characters of a plain scalar follow without a separator.  A colon ends the scalar when
a separator follows it, or a bracket or comma inside brackets. -/
def plainRunLength (inFlow : Bool) : Text → Nat
  | [] => 0
  | c :: rest =>
    if isSeparator c then 0
    else if c == ':' && endsOr (fun d => isSeparator d || inFlow && isFlowIndicator d) rest then 0
    else if inFlow && (isFlowIndicator c || c == '?') then 0
    else plainRunLength inFlow rest + 1

/-- What stands between two stretches of a plain scalar. -/
structure PlainGap where
  text : Text
  cursor : Cursor
  /-- A line ends in the gap, so that a key may follow. -/
  hasBreak : Bool

/-- The line ends and spaces from here on, up to a line that separates documents.  Of the line ends
only those are kept that follow another; the last component says whether such a line was reached. -/
def plainBreaks (kept : Text) (c : Cursor) : (rounds : Nat) → Text × Cursor × Bool
  | 0 => (kept, c, false)
  | rounds + 1 =>
    match c.lineBreak? with
    | some (b, next) =>
      if startsAnyDocumentMark next.rest then (kept, next, true)
      else plainBreaks (kept ++ [b]) next rounds
    | none =>
      if startsWith (· == ' ') c.rest then plainBreaks kept c.step rounds else (kept, c, false)

/-- A first line end and those that follow it, folded: a lone line feed becomes a space, and a first
line feed among several is dropped. -/
def foldBreaks (first : Char) (more : Text) : Text :=
  if first ≠ '\n' then first :: more else if more.isEmpty then [' '] else more

/-- The gap that begins here; it is empty where the scalar must end. -/
def plainGap (c : Cursor) : PlainGap :=
  let spaces := c.run (· == ' ')
  let c := c.skip (· == ' ')
  match c.lineBreak? with
  | none => ⟨spaces, c, false⟩
  | some (first, next) =>
    if startsAnyDocumentMark next.rest then ⟨[], next, true⟩
    else
      match plainBreaks [] next next.left with
      | (_, cursor, true) => ⟨[], cursor, true⟩
      | (more, cursor, false) => ⟨foldBreaks first more, cursor, true⟩

/-- A plain scalar: its text, the cursor past it and the gap behind it, and whether a key may stand
there. -/
structure PlainScalar where
  text : Text
  cursor : Cursor
  keyAllowed : Bool

/-- The stretches of a plain scalar from here on.  `indent` is the least column of a further line
outside brackets, `gap` is what stands before this stretch, and `read` holds the characters before
it, the last one first. -/
def plainStretches (inFlow : Bool) (indent : Int) (read gap : Text) (c : Cursor)
    (keyAllowed : Bool) : (rounds : Nat) → PlainScalar
  | 0 => ⟨read.reverse, c, keyAllowed⟩
  | rounds + 1 =>
    let length := if startsWith (· == '#') c.rest then 0 else plainRunLength inFlow c.rest
    if length = 0 then ⟨read.reverse, c, keyAllowed⟩
    else
      let read := (c.rest.take length).reverse ++ (gap.reverse ++ read)
      let next := plainGap (c.steps length)
      let c := next.cursor
      if next.text.isEmpty || startsWith (· == '#') c.rest
          || (!inFlow && (c.column : Int) < indent) then
        ⟨read.reverse, c, next.hasBreak⟩
      else plainStretches inFlow indent read next.text c next.hasBreak rounds

/-- The plain scalar that begins here. -/
def readPlain (inFlow : Bool) (indent : Int) (c : Cursor) : PlainScalar :=
  plainStretches inFlow indent [] [] c false c.left

/-! ## Quoted scalars -/

/-- The line ends between two stretches of a quoted scalar, without the spaces and tabs around
them.  No line may separate documents. -/
def quotedBreaks (kept : Text) (c : Cursor) : (rounds : Nat) → Except Fault (Text × Cursor)
  | 0 => .ok (kept, c)
  | rounds + 1 =>
    if startsAnyDocumentMark c.rest then .error .badToken
    else
      let c := c.skip isSpaceOrTab
      match c.lineBreak? with
      | some (b, next) => quotedBreaks (kept ++ [b]) next rounds
      | none => .ok (kept, c)

/-- The spaces and line ends from here on, folded.  Something must follow. -/
def quotedGap (c : Cursor) : Except Fault (Text × Cursor) :=
  let spaces := c.run isSpaceOrTab
  let c := c.skip isSpaceOrTab
  match c.lineBreak? with
  | some (first, next) => do
    let (more, c) ← quotedBreaks [] next (next.left + 1)
    return (foldBreaks first more, c)
  | none => if c.rest.isEmpty then .error .badToken else .ok (spaces, c)

/-- The character that a letter behind a backslash stands for. -/
def escapedCharacter? (c : Char) : Option Char :=
  match c with
  | '0' => some (Char.ofNat 0)
  | 'a' => some (Char.ofNat 7)
  | 'b' => some (Char.ofNat 8)
  | 't' | '\t' => some '\t'
  | 'n' => some '\n'
  | 'v' => some (Char.ofNat 11)
  | 'f' => some (Char.ofNat 12)
  | 'r' => some '\r'
  | 'e' => some (Char.ofNat 27)
  | ' ' => some ' '
  | '"' => some '"'
  | '\\' => some '\\'
  | '/' => some '/'
  | 'N' => some (Char.ofNat 0x85)
  | '_' => some (Char.ofNat 0xA0)
  | 'L' => some (Char.ofNat 0x2028)
  | 'P' => some (Char.ofNat 0x2029)
  | _ => none

/-- How many hexadecimal digits follow a letter behind a backslash. -/
def escapeWidth? (c : Char) : Option Nat :=
  match c with
  | 'x' => some 2
  | 'u' => some 4
  | 'U' => some 8
  | _ => none

/-- The value of a hexadecimal digit. -/
def hexDigit? (c : Char) : Option Nat :=
  if c.isDigit then some (c.toNat - '0'.toNat)
  else if 'a' ≤ c && c ≤ 'f' then some (c.toNat - 'a'.toNat + 10)
  else if 'A' ≤ c && c ≤ 'F' then some (c.toNat - 'A'.toNat + 10)
  else none

/-- The value of hexadecimal digits. -/
def hexValue? (digits : Text) : Option Nat :=
  digits.foldlM (fun n c => (hexDigit? c).map (16 * n + ·)) 0

/-- The code point with a number. -/
def codePoint (n : Nat) : Except Fault CodePoint :=
  match CodePoint.ofNat? n with
  | some p => .ok p
  | none => .error (if n < Nat.pow 2 31 then .badValue .codePointTooLarge else .overflow)

/-- The code point that digits behind a letter stand for, and the cursor past it. -/
def readNumberEscape (width : Nat) (c : Cursor) : Except Fault (CodePoint × Cursor) :=
  let digits := (c.rest.drop 1).take width
  if digits.length < width then .error .badToken
  else
    match hexValue? digits with
    | none => .error .badToken
    | some n => do return (← codePoint n, c.steps (width + 1))

/-- What an escape stands for, from the character behind the backslash. -/
def readEscape (c : Cursor) : Except Fault (LooseText × Cursor) :=
  match c.rest with
  | [] => .error .badToken
  | ch :: _ =>
    match escapedCharacter? ch, escapeWidth? ch, c.lineBreak? with
    | some e, _, _ => .ok ([.char e], c.step)
    | none, some width, _ => do
      let (e, next) ← readNumberEscape width c
      return ([e], next)
    | none, none, some (_, next) => do
      let (breaks, next) ← quotedBreaks [] next (next.left + 1)
      return (breaks.loose, next)
    | none, none, none => .error .badToken

/-- The content of a quoted scalar from here on, up to the closing quote and past it.  `read` holds
what stands before, the last code point first. -/
def quotedContent (double : Bool) (read : LooseText) (c : Cursor) :
    (rounds : Nat) → Except Fault (LooseText × Cursor)
  | 0 => .error .badToken
  | rounds + 1 =>
    match c.rest with
    | [] => .error .badToken
    | ch :: rest =>
      if !double && ch == '\'' then
        if startsWith (· == '\'') rest then
          quotedContent double (.char '\'' :: read) (c.steps 2) rounds
        else .ok (read.reverse, c.step)
      else if double && ch == '"' then .ok (read.reverse, c.step)
      else if double && ch == '\\' then do
        let (e, next) ← readEscape c.step
        quotedContent double (e.reverse ++ read) next rounds
      else if isSeparator ch then do
        let (gap, next) ← quotedGap c
        quotedContent double (gap.loose.reverse ++ read) next rounds
      else quotedContent double (.char ch :: read) c.step rounds

/-- The quoted scalar that begins here. -/
def readQuoted (c : Cursor) : Except Fault (LooseText × Cursor) :=
  quotedContent (startsWith (· == '"') c.rest) [] c.step (c.left + 1)

/-! ## Block scalars -/

/-- What happens to the line ends behind the last line of a block. -/
inductive Chomping where
  /-- One line end is kept. -/
  | clip
  /-- None is kept. -/
  | strip
  /-- All are kept. -/
  | keep
  deriving DecidableEq

/-- The sign that says what happens to the last line ends. -/
def chompingOf? (t : Text) : Option Chomping :=
  match t with
  | '+' :: _ => some .keep
  | '-' :: _ => some .strip
  | _ => none

/-- The digit that says how far a block is indented, which may not be zero. -/
def indentationOf? (t : Text) : Except Fault (Option Nat) :=
  match t with
  | c :: _ =>
    if !c.isDigit then .ok none
    else if c = '0' then .error .badToken
    else .ok (some (c.toNat - '0'.toNat))
  | [] => .ok none

/-- The signs behind the indicator of a block, in either order, and the rest of the line. -/
def readBlockHeader (c : Cursor) : Except Fault (Chomping × Option Nat × Cursor) := do
  let (chomping, indentation, next) ←
    match chompingOf? c.rest with
    | some chomping =>
      let c := c.step
      match ← indentationOf? c.rest with
      | some n => pure (chomping, some n, c.step)
      | none => pure (chomping, none, c)
    | none =>
      match ← indentationOf? c.rest with
      | some n =>
        let c := c.step
        match chompingOf? c.rest with
        | some chomping => pure (chomping, some n, c.step)
        | none => pure (Chomping.clip, some n, c)
      | none => pure (Chomping.clip, none, c)
  if !endsOr (fun ch => ch == ' ' || isBreak ch) next.rest then .error .badToken
  else return (chomping, indentation, ← next.restOfLine)

/-- The blank lines at the beginning of a block, and the greatest column that they reach. -/
def leadingBlankLines (kept : Text) (widest : Nat) (c : Cursor) :
    (rounds : Nat) → Text × Nat × Cursor
  | 0 => (kept, widest, c)
  | rounds + 1 =>
    match c.lineBreak? with
    | some (b, next) => leadingBlankLines (kept ++ [b]) widest next rounds
    | none =>
      if startsWith (· == ' ') c.rest then
        leadingBlankLines kept (max widest c.step.column) c.step rounds
      else (kept, widest, c)

/-- Past the spaces before a column. -/
def skipIndentation (indent : Nat) (c : Cursor) : (rounds : Nat) → Cursor
  | 0 => c
  | rounds + 1 =>
    if c.column < indent && startsWith (· == ' ') c.rest then skipIndentation indent c.step rounds
    else c

/-- The blank lines from here on, and the cursor in the first other line, at most at a column. -/
def blankLines (indent : Nat) (kept : Text) (c : Cursor) : (rounds : Nat) → Text × Cursor
  | 0 => (kept, c)
  | rounds + 1 =>
    let c := skipIndentation indent c c.left
    match c.lineBreak? with
    | some (b, next) => blankLines indent (kept ++ [b]) next rounds
    | none => (kept, c)

/-- The lines of a block that have been read. -/
structure BlockSoFar where
  /-- The text of the lines, the last character first. -/
  read : Text := []
  /-- The end of the last line. -/
  lineEnd : Text := []
  /-- The blank lines behind it. -/
  blanks : Text
  /-- The last line begins without a blank. -/
  plainStart : Bool := false

/-- What stands between the last line of a block and a further one.  In a folded block a line feed
between two lines that begin without a blank becomes a space, or nothing before blank lines. -/
def BlockSoFar.separator (b : BlockSoFar) (folded plainStart : Bool) : Text :=
  if folded && b.lineEnd == ['\n'] && b.plainStart && plainStart then
    if b.blanks.isEmpty then [' '] else []
  else b.lineEnd

/-- The text of a block that ends here. -/
def BlockSoFar.finish (b : BlockSoFar) : Chomping → Text
  | .strip => b.read.reverse
  | .clip => b.read.reverse ++ b.lineEnd
  | .keep => b.read.reverse ++ b.lineEnd ++ b.blanks

/-- The lines of a block from here on, as long as they begin at its column. -/
def blockLines (folded : Bool) (indent : Nat) (b : BlockSoFar) (c : Cursor) :
    (rounds : Nat) → BlockSoFar × Cursor
  | 0 => (b, c)
  | rounds + 1 =>
    if c.column ≠ indent || c.rest.isEmpty then (b, c)
    else
      let plainStart := !startsWith isSpaceOrTab c.rest
      let more := b.separator folded plainStart ++ b.blanks ++ c.run (!isBreak ·)
      let c := c.skip (!isBreak ·)
      let (lineEnd, next) : Text × Cursor :=
        match c.lineBreak? with
        | some (e, next) => ([e], next)
        | none => ([], c)
      let (blanks, next) := blankLines indent [] next (next.left + 1)
      blockLines folded indent
        { read := more.reverse ++ b.read, lineEnd, blanks, plainStart } next rounds

/-- The block scalar whose indicator stands here, inside a collection indented by `indent`. -/
def readBlock (folded : Bool) (indent : Int) (c : Cursor) : Except Fault (Text × Cursor) := do
  let (chomping, indentation, c) ← readBlockHeader c.step
  let least := max (indent + 1) 1
  let (column, blanks, c) : Nat × Text × Cursor :=
    match indentation with
    | some n =>
      let column := (least + n - 1).toNat
      let (blanks, c) := blankLines column [] c (c.left + 1)
      (column, blanks, c)
    | none =>
      let (blanks, widest, c) := leadingBlankLines [] 0 c c.left
      (max least.toNat widest, blanks, c)
  let (b, c) := blockLines folded column { blanks } c (c.left + 1)
  return (b.finish chomping, c)

end CandidateSearch.Yaml

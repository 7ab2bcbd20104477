import CandidateSearch.Text.Utf8
import CandidateSearch.Yaml.Number
import CandidateSearch.Yaml.Scalar

/-!
# Tokens of a YAML text

The tokens of a text are its scalars, its indicators, and marks for the collections that indentation
opens and closes.  A key is recognised only when its colon is reached, so a token that may begin a
key is kept in mind, and the mark is put in front of it later.  `tokensOf` gives every token that is
settled before the first fault, if there is one.
-/

namespace CandidateSearch.Yaml

/-- A line that begins with a percent sign. -/
inductive Directive where
  /-- The version of the language. -/
  | version (major : Nat)
  /-- A short name for the beginning of tags. -/
  | tagHandle (handle target : Text)
  /-- Any other directive, which means nothing. -/
  | other
  deriving DecidableEq, Repr

/-- A token of a YAML text. -/
inductive Token where
  | directive (d : Directive)
  | documentStart
  | documentEnd
  | blockSequenceStart
  | blockMappingStart
  | blockEnd
  | flowSequenceStart
  | flowSequenceEnd
  | flowMappingStart
  | flowMappingEnd
  | blockEntry
  | flowEntry
  | key
  | value
  | alias (name : Text)
  | anchor (name : Text)
  /-- A tag, its beginning given by a handle or in full. -/
  | tag (handle : Option Text) (rest : Text)
  | scalar (text : LooseText) (plain : Bool)
  | streamEnd
  deriving DecidableEq, Repr

/-! ## Names, tags and directives -/

/-- A name behind its indicator. -/
def readName (c : Cursor) : Except Fault (Text × Cursor) :=
  let name := c.step.run isNameCharacter
  let next := c.step.skip isNameCharacter
  let ends (ch : Char) : Bool :=
    isSeparator ch || ['?', ':', ',', ']', '\x7d', '%', '@', Char.ofNat 0x60].contains ch
  if name.isEmpty || !endsOr ends next.rest then .error .badToken else .ok (name, next)

/-- A character that may stand in a tag. -/
def isTagCharacter (c : Char) : Bool :=
  c.isAlphanum || "-;/?:@&=+$,_.!~*'()[]%".toList.contains c

/-- The octets that percent signs and two hexadecimal digits each stand for. -/
def percentOctets : (rounds : Nat) → Cursor → Except Fault (List UInt8 × Cursor)
  | 0, c => .ok ([], c)
  | rounds + 1, c =>
    match c.rest with
    | '%' :: high :: low :: _ =>
      match hexValue? [high, low] with
      | some n => do
        let (octets, next) ← percentOctets rounds (c.steps 3)
        return (UInt8.ofNat n :: octets, next)
      | none => .error .badToken
    | '%' :: _ => .error .badToken
    | _ => .ok ([], c)

/-- The characters of a tag from here on, octets in percent notation decoded. -/
def tagCharacters (sofar : Text) (c : Cursor) : (rounds : Nat) → Except Fault (Text × Cursor)
  | 0 => .ok (sofar, c)
  | rounds + 1 =>
    match c.rest with
    | '%' :: _ => do
      let (octets, next) ← percentOctets c.left c
      match decodeUtf8 octets with
      | .ok t => tagCharacters (sofar ++ t) next rounds
      | .error _ => .error .badToken
    | ch :: _ =>
      if isTagCharacter ch then tagCharacters (sofar ++ [ch]) c.step rounds else .ok (sofar, c)
    | [] => .ok (sofar, c)

/-- The characters of a tag, of which there must be one. -/
def readTagCharacters (c : Cursor) : Except Fault (Text × Cursor) := do
  let (t, next) ← tagCharacters [] c c.left
  if next.index = c.index then .error .badToken else return (t, next)

/-- A tag handle: one exclamation mark, or a name between two. -/
def readHandle (c : Cursor) : Except Fault (Text × Cursor) :=
  match c.rest with
  | '!' :: rest =>
    let name := rest.takeWhile isNameCharacter
    if startsWith (· == ' ') rest then .ok (['!'], c.step)
    else if startsWith (· == '!') (rest.drop name.length) then
      .ok ('!' :: name ++ ['!'], c.steps (name.length + 2))
    else .error .badToken
  | _ => .error .badToken

/-- A character that ends a tag. -/
def endsTag (c : Char) : Bool := c == ' ' || isBreak c

/-- The tag that begins here. -/
def readTag (c : Cursor) : Except Fault (Token × Cursor) := do
  let (token, next) : Token × Cursor ←
    match c.rest.drop 1 with
    | '<' :: _ =>
      let (t, next) ← readTagCharacters (c.steps 2)
      if startsWith (· == '>') next.rest then pure (Token.tag none t, next.step)
      else .error .badToken
    | rest =>
      if endsOr isSeparator rest then pure (Token.tag none ['!'], c.step)
      else if (rest.takeWhile (!endsTag ·)).contains '!' then
        let (handle, next) ← readHandle c
        let (t, next) ← readTagCharacters next
        pure (Token.tag (some handle) t, next)
      else
        let (t, next) ← readTagCharacters c.step
        pure (Token.tag (some ['!']) t, next)
  if endsOr endsTag next.rest then return (token, next) else .error .badToken

/-- A number of a version. -/
def readVersionNumber (c : Cursor) : Except Fault (Nat × Cursor) :=
  let digits := c.run Char.isDigit
  if digits.isEmpty then .error .badToken
  else if decimalDigitLimit < digits.length then .error (.badValue (.tooManyDigits digits.length))
  else .ok (digits.foldl (fun n d => 10 * n + (d.toNat - '0'.toNat)) 0, c.skip Char.isDigit)

/-- The directive that begins here, and its whole line. -/
def readDirective (c : Cursor) : Except Fault (Token × Cursor) := do
  let name := c.step.run isNameCharacter
  let c := c.step.skip isNameCharacter
  if name.isEmpty || !endsOr endsTag c.rest then .error .badToken
  let spaces := fun (c : Cursor) => c.skip (· == ' ')
  if name = "YAML".toList then
    let (major, c) ← readVersionNumber (spaces c)
    if !startsWith (· == '.') c.rest then .error .badToken
    let (_, c) ← readVersionNumber c.step
    if !endsOr endsTag c.rest then .error .badToken
    return (.directive (.version major), ← c.restOfLine)
  else if name = "TAG".toList then
    let (handle, c) ← readHandle (spaces c)
    if !startsWith (· == ' ') c.rest then .error .badToken
    let (target, c) ← readTagCharacters (spaces c)
    if !endsOr endsTag c.rest then .error .badToken
    return (.directive (.tagHandle handle target), ← c.restOfLine)
  else return (.directive .other, ← (c.skip (!isBreak ·)).restOfLine)

/-! ## Scanning -/

/-- A token that may turn out to begin a key, if a colon follows on its line. -/
structure PendingKey where
  /-- The brackets around it. -/
  level : Nat
  /-- Its place among the tokens. -/
  place : Nat
  /-- Nothing but a key can stand here. -/
  required : Bool
  index : Nat
  line : Nat
  column : Nat

/-- The state between two tokens. -/
structure Scanner where
  cursor : Cursor
  tokens : Array Token := #[]
  /-- How many brackets are open. -/
  level : Nat := 0
  /-- The column of the innermost collection that indentation has opened. -/
  indent : Int := -1
  /-- The columns of the collections around it. -/
  outer : List Int := []
  /-- A key may begin here without a question mark. -/
  keyAllowed : Bool := true
  pending : List PendingKey := []

namespace Scanner

/-- Append a token and move on. -/
def emit (s : Scanner) (token : Token) (next : Cursor) : Scanner :=
  { s with tokens := s.tokens.push token, cursor := next }

/-- Past a byte order mark at the very beginning. -/
def skipMark (s : Scanner) : Scanner :=
  if s.cursor.index = 0 && startsWith (·.toNat == 0xFEFF) s.cursor.rest then
    { s with cursor := s.cursor.step }
  else s

/-- Past spaces, comments and line ends.  Outside brackets a new line may begin a key. -/
def skipBlanks (s : Scanner) : (rounds : Nat) → Scanner
  | 0 => s
  | rounds + 1 =>
    let c := s.cursor.skip (· == ' ')
    let c := if startsWith (· == '#') c.rest then c.skip (!isBreak ·) else c
    match c.lineBreak? with
    | some (_, next) =>
      skipBlanks { s with cursor := next, keyAllowed := s.level = 0 || s.keyAllowed } rounds
    | none => { s with cursor := c }

/-- A pending key is out of reach: its line has ended, or it began too long ago. -/
def isStale (s : Scanner) (key : PendingKey) : Bool :=
  key.line ≠ s.cursor.line || key.index + 1024 < s.cursor.index

/-- Forget the pending keys that are out of reach; none of them may be required. -/
def dropStale (s : Scanner) : Except Fault Scanner :=
  if s.pending.any fun key => s.isStale key && key.required then .error .badToken
  else .ok { s with pending := s.pending.filter (!s.isStale ·) }

/-- Forget the pending key inside the present brackets; it may not be required. -/
def dropPending (s : Scanner) : Except Fault Scanner :=
  if s.pending.any fun key => key.level == s.level && key.required then .error .badToken
  else .ok { s with pending := s.pending.filter (·.level != s.level) }

/-- Keep in mind that the next token may begin a key. -/
def savePending (s : Scanner) : Except Fault Scanner :=
  if s.keyAllowed then do
    let c := s.cursor
    let key : PendingKey :=
      { level := s.level, place := s.tokens.size
        required := s.level = 0 && s.indent = c.column
        index := c.index, line := c.line, column := c.column }
    let s ← s.dropPending
    return { s with pending := s.pending ++ [key] }
  else .ok s

/-- Close the collections that are indented further than a column. -/
def unwindTo (column : Int) (s : Scanner) : List Int → Scanner
  | [] => s
  | outer :: rest =>
    if column < s.indent then
      unwindTo column
        { s with indent := outer, outer := rest, tokens := s.tokens.push .blockEnd } rest
    else s

/-- Close the collections that are indented further than a column, outside brackets. -/
def unwind (s : Scanner) (column : Int) : Scanner :=
  if s.level = 0 then unwindTo column s s.outer else s

/-- Open a collection at a column, unless one is open there: the mark goes to a place among the
tokens. -/
def openAt (s : Scanner) (column place : Nat) (mark : Token) : Scanner :=
  if s.indent < column then
    { s with
      outer := s.indent :: s.outer, indent := column
      tokens := s.tokens.insertIdxIfInBounds place mark }
  else s

/-- The end of the text. -/
def finish (s : Scanner) : Except Fault Scanner := do
  let s ← (s.unwind (-1)).dropPending
  return { s with keyAllowed := false, pending := [], tokens := s.tokens.push .streamEnd }

/-- A directive or a mark between documents. -/
def between (s : Scanner) (read : Cursor → Except Fault (Token × Cursor)) :
    Except Fault Scanner := do
  let s ← (s.unwind (-1)).dropPending
  let (token, next) ← read s.cursor
  return { s with keyAllowed := false }.emit token next

/-- An opening bracket. -/
def openFlow (s : Scanner) (token : Token) : Except Fault Scanner := do
  let s ← s.savePending
  return { s with level := s.level + 1, keyAllowed := true }.emit token s.cursor.step

/-- A closing bracket. -/
def closeFlow (s : Scanner) (token : Token) : Except Fault Scanner := do
  let s ← s.dropPending
  return { s with level := s.level - 1, keyAllowed := false }.emit token s.cursor.step

/-- A comma between brackets. -/
def flowEntry (s : Scanner) : Except Fault Scanner := do
  let s ← s.dropPending
  return { s with keyAllowed := true }.emit .flowEntry s.cursor.step

/-- A hyphen in front of an item. -/
def blockEntry (s : Scanner) : Except Fault Scanner := do
  if s.level = 0 && !s.keyAllowed then .error .badToken
  let s :=
    if s.level = 0 then s.openAt s.cursor.column s.tokens.size .blockSequenceStart else s
  let s ← s.dropPending
  return { s with keyAllowed := true }.emit .blockEntry s.cursor.step

/-- A question mark in front of a key. -/
def explicitKey (s : Scanner) : Except Fault Scanner := do
  if s.level = 0 && !s.keyAllowed then .error .badToken
  let s :=
    if s.level = 0 then s.openAt s.cursor.column s.tokens.size .blockMappingStart else s
  let s ← s.dropPending
  return { s with keyAllowed := s.level = 0 }.emit .key s.cursor.step

/-- A colon in front of a value.  It turns the pending key into a key. -/
def valueMark (s : Scanner) : Except Fault Scanner := do
  match s.pending.find? (·.level == s.level) with
  | some key =>
    let s :=
      { s with
        pending := s.pending.filter (·.level != s.level)
        tokens := s.tokens.insertIdxIfInBounds key.place .key }
    let s := if s.level = 0 then s.openAt key.column key.place .blockMappingStart else s
    return { s with keyAllowed := false }.emit .value s.cursor.step
  | none =>
    if s.level = 0 && !s.keyAllowed then .error .badToken
    let s :=
      if s.level = 0 then s.openAt s.cursor.column s.tokens.size .blockMappingStart else s
    return { s with keyAllowed := s.level = 0 }.emit .value s.cursor.step

/-- A token that may begin a key. -/
def content (s : Scanner) (read : Cursor → Except Fault (Token × Cursor)) :
    Except Fault Scanner := do
  let s ← s.savePending
  let (token, next) ← read s.cursor
  return { s with keyAllowed := false }.emit token next

/-- A plain scalar. -/
def plain (s : Scanner) : Except Fault Scanner := do
  let s ← s.savePending
  let scalar := readPlain (0 < s.level) (s.indent + 1) s.cursor
  let token := Token.scalar scalar.text.loose true
  return { s with keyAllowed := scalar.keyAllowed }.emit token scalar.cursor

/-- A block scalar. -/
def block (s : Scanner) (folded : Bool) : Except Fault Scanner := do
  let s ← s.dropPending
  let (t, next) ← readBlock folded s.indent s.cursor
  return { s with keyAllowed := true }.emit (.scalar t.loose false) next

/-- A plain scalar may begin with these characters. -/
def startsPlain (inFlow : Bool) : Text → Bool
  | [] => false
  | c :: rest =>
    !(isSeparator c || "-?:,[]#&*!|>'\"%@".toList.contains c
        || [Char.ofNat 0x60, '\x7b', '\x7d'].contains c)
      || !endsOr isSeparator rest && (c == '-' || !inFlow && (c == '?' || c == ':'))

/-- Read one token, which begins here. -/
def token (s : Scanner) : Except Fault Scanner :=
  let c := s.cursor
  let inFlow : Bool := 0 < s.level
  let atMargin : Bool := c.column = 0
  match c.rest with
  | [] => s.finish
  | ch :: rest =>
    let alone := endsOr isSeparator rest
    if ch == '%' && atMargin then s.between readDirective
    else if atMargin && startsDocumentMark '-' c.rest then
      s.between fun c => .ok (.documentStart, c.steps 3)
    else if atMargin && startsDocumentMark '.' c.rest then
      s.between fun c => .ok (.documentEnd, c.steps 3)
    else if ch == '[' then s.openFlow .flowSequenceStart
    else if ch == '\x7b' then s.openFlow .flowMappingStart
    else if ch == ']' then s.closeFlow .flowSequenceEnd
    else if ch == '\x7d' then s.closeFlow .flowMappingEnd
    else if ch == ',' then s.flowEntry
    else if ch == '-' && alone then s.blockEntry
    else if ch == '?' && (inFlow || alone) then s.explicitKey
    else if ch == ':' && (inFlow || alone) then s.valueMark
    else if ch == '*' then
      s.content fun c => do let (name, next) ← readName c; return (.alias name, next)
    else if ch == '&' then
      s.content fun c => do let (name, next) ← readName c; return (.anchor name, next)
    else if ch == '!' then s.content readTag
    else if ch == '|' && !inFlow then s.block false
    else if ch == '>' && !inFlow then s.block true
    else if ch == '\'' || ch == '"' then
      s.content fun c => do let (t, next) ← readQuoted c; return (.scalar t false, next)
    else if startsPlain inFlow c.rest then s.plain
    else .error .badToken

/-- Move to the next token and read it.  Before the move and behind the token, the pending keys that
are out of reach are forgotten. -/
def advance (s : Scanner) : Except Fault Scanner := do
  let s ← (s.skipMark.skipBlanks (s.cursor.left + 1)).dropStale
  let s ← (s.unwind s.cursor.column).token
  s.dropStale

end Scanner

/-- The tokens of a text as far as they are settled, and the fault that ends them. -/
structure TokenList where
  tokens : List Token
  fault : Option Fault

/-- The tokens that are settled when no further one can be read: those before the first one that
may still turn out to begin a key. -/
def Scanner.settled (s : Scanner) (fault : Fault) : TokenList where
  tokens := s.tokens.toList.take (s.pending.foldl (fun n key => min n key.place) s.tokens.size)
  fault := some fault

/-- The tokens from here on. -/
def Scanner.run (s : Scanner) : (rounds : Nat) → TokenList
  | 0 => ⟨s.tokens.toList, none⟩
  | rounds + 1 =>
    if s.tokens.back? = some .streamEnd then ⟨s.tokens.toList, none⟩
    else
      match s.advance with
      | .ok next => next.run rounds
      | .error fault => s.settled fault

/-- The tokens of a text. -/
def tokensOf (t : Text) : TokenList :=
  if t.any (!isAllowed ·) then ⟨[], some .forbiddenCharacter⟩
  else Scanner.run { cursor := { rest := t } } (t.length + 2)

end CandidateSearch.Yaml

import CandidateSearch.Yaml.Tag
import CandidateSearch.Yaml.Token

/-!
# Nodes of a YAML text

The tokens of a text form one document at most: scalars, sequences and mappings, in which an alias
stands for the very node that it names, be it one around the alias.  The nodes of a document are
therefore numbered, and collections hold the numbers of their parts.  `Graph.ofTokens?` reads the
document and reports the first fault.
-/

namespace CandidateSearch.Yaml

/-- What a node holds; its parts are given by their numbers. -/
inductive Content where
  | scalar (text : LooseText)
  | sequence (items : List Nat)
  | mapping (entries : List (Nat × Nat))
  deriving Repr

/-- A node of a document. -/
structure Node where
  tag : Tag
  content : Content
  deriving Repr

/-- A node that nothing is written for. -/
def Node.empty : Node := ⟨.null, .scalar []⟩

instance : Inhabited Node := ⟨.empty⟩

/-- The nodes of a document by their numbers, and the number of the node that is the document. -/
structure Graph where
  nodes : Array Node
  root : Nat

/-! ## Reading tokens -/

/-- What is left to read, and what is known so far. -/
structure Reading where
  tokens : List Token
  /-- The fault that ends the tokens. -/
  fault : Option Fault
  /-- What the handles of tags stand for. -/
  handles : List (Text × Text) := []
  /-- The nodes that have been named, the latest first. -/
  anchors : List (Text × Nat) := []
  /-- The nodes so far. -/
  nodes : Array Node := #[]
  /-- How many collections are open. -/
  depth : Nat := 0

/-- A step of reading nodes. -/
abbrev Compose := StateT Reading (Except Fault)

namespace Compose

/-- The next token. -/
def peek : Compose Token := do
  let r ← get
  match r.tokens with
  | t :: _ => return t
  | [] => throw (r.fault.getD .badStructure)

/-- Past one token. -/
def skip : Compose Unit := modify fun r => { r with tokens := r.tokens.drop 1 }

/-- Whether a token comes next; it is skipped if it does. -/
def skipIf (t : Token) : Compose Bool := do
  if (← peek) = t then
    skip
    return true
  else return false

/-- Whether one of some tokens comes next. -/
def nextIsAmong (ts : List Token) : Compose Bool := return ts.contains (← peek)

/-- Past a token that must come next. -/
def expect (t : Token) : Compose Unit := do
  if !(← skipIf t) then throw .badStructure

/-- The number of the node with a name. -/
def named (name : Text) : Compose Nat := do
  match (← get).anchors.lookup name with
  | some n => return n
  | none => throw .badReference

/-- A name may be given once only. -/
def checkAnchor (anchor : Option Text) : Compose Unit := do
  match anchor with
  | some name =>
    if ((← get).anchors.lookup name).isSome then throw .badReference
  | none => return

/-- Give a node its name. -/
def bind (anchor : Option Text) (n : Nat) : Compose Unit :=
  match anchor with
  | some name => modify fun r => { r with anchors := (name, n) :: r.anchors }
  | none => return

/-- The number of a new node. -/
def add (node : Node) : Compose Nat :=
  modifyGet fun r => (r.nodes.size, { r with nodes := r.nodes.push node })

/-- The full name of a tag. -/
def tagName (handle : Option Text) (rest : Text) : Compose Text := do
  match handle with
  | none => return rest
  | some h =>
    match (← get).handles.lookup h with
    | some target => return target ++ rest
    | none => throw .badStructure

/-- The name and the tag of a node, in either order. -/
def properties : Compose (Option Text × Option Text) := do
  match ← peek with
  | .anchor name =>
    skip
    match ← peek with
    | .tag handle rest =>
      skip
      return (some name, some (← tagName handle rest))
    | _ => return (some name, none)
  | .tag handle rest =>
    skip
    match ← peek with
    | .anchor name =>
      skip
      return (some name, some (← tagName handle rest))
    | _ => return (none, some (← tagName handle rest))
  | _ => return (none, none)

/-- The tag of a collection; a lone exclamation mark leaves it as it is. -/
def collectionTag (tag : Option Text) (default : Tag) : Tag :=
  match tag with
  | none => default
  | some name => if name = ['!'] then default else .ofName name

/-- The tag of a text by its form; no other form than a text holds halves of characters. -/
def formTag (text : LooseText) : Tag :=
  match text.strict? with
  | some t => .ofPlain t
  | none => .text

/-- The tag of a scalar.  A plain scalar without a tag, and any scalar with a lone exclamation mark,
has the tag of its form. -/
def scalarTag (tag : Option Text) (plain : Bool) (text : LooseText) : Tag :=
  match tag with
  | none => if plain then formTag text else .text
  | some name => if name = ['!'] then formTag text else .ofName name

/-- How many collections may be open at once when a command is run.  The reader goes into a
collection by two calls, both of which wait for its end, and a thousand calls in all may wait; this
is how many collections fit beside the calls that wait around the reader in a command.  A reader
that is called from deeper down has room for fewer, which is not modelled. -/
def depthLimit : Nat := 488

/-- A collection: its parts are read when it has its number and its name. -/
def collection (anchor : Option Text) (node : Node) (parts : Compose Content) : Compose Nat := do
  checkAnchor anchor
  let n ← add node
  bind anchor n
  if depthLimit ≤ (← get).depth then throw .tooDeep
  modify fun r => { r with depth := r.depth + 1 }
  let content ← parts
  modify fun r =>
    { r with depth := r.depth - 1, nodes := r.nodes.setIfInBounds n { node with content } }
  return n

/-- A sequence. -/
def sequence (anchor tag : Option Text) (items : Compose (List Nat)) : Compose Nat :=
  collection anchor ⟨collectionTag tag .sequence, .sequence []⟩ do return .sequence (← items)

/-- A mapping. -/
def mapping (anchor tag : Option Text) (entries : Compose (List (Nat × Nat))) : Compose Nat :=
  collection anchor ⟨collectionTag tag .mapping, .mapping []⟩ do return .mapping (← entries)

/-- A scalar. -/
def scalar (anchor tag : Option Text) (plain : Bool) (text : LooseText) : Compose Nat := do
  checkAnchor anchor
  let n ← add ⟨scalarTag tag plain text, .scalar text⟩
  bind anchor n
  return n

/-- A node that has a name or a tag and nothing else; it must have one of them. -/
def emptyNode (anchor tag : Option Text) : Compose Nat := do
  if anchor.isNone && tag.isNone then throw .badStructure
  scalar anchor tag true []

mutual

/-- A node.  Collections that indentation opens may stand where `block` says so, and a sequence that
is not indented where `indentless` says so. -/
def node (block indentless : Bool) : (rounds : Nat) → Compose Nat
  | 0 => throw .badStructure
  | rounds + 1 => do
    match ← peek with
    | .alias name =>
      skip
      named name
    | _ =>
      let (anchor, tag) ← properties
      match ← peek with
      | .scalar text plain =>
        skip
        scalar anchor tag plain text
      | .flowSequenceStart =>
        skip
        sequence anchor tag (flowItems true rounds)
      | .flowMappingStart =>
        skip
        mapping anchor tag (flowEntries true rounds)
      | .blockEntry =>
        if indentless then sequence anchor tag (indentlessItems rounds)
        else emptyNode anchor tag
      | .blockSequenceStart =>
        if block then
          skip
          sequence anchor tag (blockItems rounds)
        else emptyNode anchor tag
      | .blockMappingStart =>
        if block then
          skip
          mapping anchor tag (blockEntries rounds)
        else emptyNode anchor tag
      | _ => emptyNode anchor tag
  termination_by structural rounds => rounds

/-- The items of a sequence that is indented. -/
def blockItems : (rounds : Nat) → Compose (List Nat)
  | 0 => throw .badStructure
  | rounds + 1 => do
    if ← skipIf .blockEntry then
      let item ← nodeUnless [.blockEntry, .blockEnd] true false rounds
      return item :: (← blockItems rounds)
    else
      expect .blockEnd
      return []
  termination_by structural rounds => rounds

/-- The items of a sequence as a value of a mapping, indented no further than its key. -/
def indentlessItems : (rounds : Nat) → Compose (List Nat)
  | 0 => throw .badStructure
  | rounds + 1 => do
    if ← skipIf .blockEntry then
      let item ← nodeUnless [.blockEntry, .key, .value, .blockEnd] true false rounds
      return item :: (← indentlessItems rounds)
    else return []
  termination_by structural rounds => rounds

/-- The entries of a mapping that is indented. -/
def blockEntries : (rounds : Nat) → Compose (List (Nat × Nat))
  | 0 => throw .badStructure
  | rounds + 1 => do
    if ← skipIf .key then
      let key ← nodeUnless [.key, .value, .blockEnd] true true rounds
      let value ←
        if ← skipIf .value then nodeUnless [.key, .value, .blockEnd] true true rounds
        else add .empty
      return (key, value) :: (← blockEntries rounds)
    else
      expect .blockEnd
      return []
  termination_by structural rounds => rounds

/-- The items of a sequence between brackets, commas between them.  An item may be a single entry of
a mapping. -/
def flowItems (first : Bool) : (rounds : Nat) → Compose (List Nat)
  | 0 => throw .badStructure
  | rounds + 1 => do
    if ← skipIf .flowSequenceEnd then return []
    if !first then expect .flowEntry
    if ← skipIf .key then
      let item ← mapping none none do
        let key ← nodeUnless [.value, .flowEntry, .flowSequenceEnd] false false rounds
        let value ←
          if ← skipIf .value then nodeUnless [.flowEntry, .flowSequenceEnd] false false rounds
          else add .empty
        return [(key, value)]
      return item :: (← flowItems false rounds)
    else if ← skipIf .flowSequenceEnd then return []
    else
      let item ← node false false rounds
      return item :: (← flowItems false rounds)
  termination_by structural rounds => rounds

/-- The entries of a mapping between braces, commas between them. -/
def flowEntries (first : Bool) : (rounds : Nat) → Compose (List (Nat × Nat))
  | 0 => throw .badStructure
  | rounds + 1 => do
    if ← skipIf .flowMappingEnd then return []
    if !first then expect .flowEntry
    if ← skipIf .key then
      let key ← nodeUnless [.value, .flowEntry, .flowMappingEnd] false false rounds
      let value ←
        if ← skipIf .value then nodeUnless [.flowEntry, .flowMappingEnd] false false rounds
        else add .empty
      return (key, value) :: (← flowEntries false rounds)
    else if ← skipIf .flowMappingEnd then return []
    else
      let key ← node false false rounds
      let value ← add .empty
      return (key, value) :: (← flowEntries false rounds)
  termination_by structural rounds => rounds

/-- A node, or an empty one if one of some tokens comes next. -/
def nodeUnless (ends : List Token) (block indentless : Bool) : (rounds : Nat) → Compose Nat
  | 0 => throw .badStructure
  | rounds + 1 => do
    if ← nextIsAmong ends then add .empty else node block indentless rounds
  termination_by structural rounds => rounds

end

/-! ## Documents -/

/-- The handles that need no directive. -/
def defaultHandles : List (Text × Text) := [(['!'], ['!']), (['!', '!'], standardPrefix)]

/-- The directives in front of a document: at most one version, which must be a version 1, and at
most one meaning for each handle. -/
def directives (hasVersion : Bool) (handles : List (Text × Text)) : (rounds : Nat) → Compose Unit
  | 0 => throw .badStructure
  | rounds + 1 => do
    match ← peek with
    | .directive (.version major) =>
      skip
      if hasVersion || major ≠ 1 then throw .badStructure
      directives true handles rounds
    | .directive (.tagHandle handle target) =>
      skip
      if (handles.lookup handle).isSome then throw .badStructure
      directives hasVersion ((handle, target) :: handles) rounds
    | .directive .other =>
      skip
      directives hasVersion handles rounds
    | _ => modify fun r => { r with handles := handles ++ defaultHandles }

/-- A directive comes next. -/
def nextIsDirective : Compose Bool := do
  match ← peek with
  | .directive _ => return true
  | _ => return false

/-- What follows the directives of a document and its first line; nothing need follow. -/
def content (rounds : Nat) : Compose Nat := do
  if (← nextIsDirective) || (← nextIsAmong [.documentStart, .documentEnd, .streamEnd]) then
    add .empty
  else node true false rounds

/-- Past the marks that end documents. -/
def skipDocumentEnds : (rounds : Nat) → Compose Unit
  | 0 => return
  | rounds + 1 => do if ← skipIf .documentEnd then skipDocumentEnds rounds

/-- The number of the node that is the only document of a text, if there is one. -/
def document (rounds : Nat) : Compose (Option Nat) := do
  if ← skipIf .streamEnd then return none
  let root ←
    if (← nextIsDirective) || (← nextIsAmong [.documentStart]) then
      directives false [] rounds
      expect .documentStart
      content rounds
    else
      modify fun r => { r with handles := defaultHandles }
      node true false rounds
  skipDocumentEnds rounds
  if ← skipIf .streamEnd then return some root
  directives false [] rounds
  expect .documentStart
  throw .badReference

end Compose

/-- The document that tokens form, if there is one. -/
def Graph.ofTokens? (ts : TokenList) : Except Fault (Option Graph) := do
  let start : Reading := { tokens := ts.tokens, fault := ts.fault }
  let (root, r) ← (Compose.document (4 * ts.tokens.length + 4)).run start
  return root.map fun n => ⟨r.nodes, n⟩

end CandidateSearch.Yaml

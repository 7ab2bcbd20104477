import CandidateSearch.Document.Arrangement
import CandidateSearch.Yaml.Node
import CandidateSearch.Yaml.Number
import CandidateSearch.Yaml.Octets

/-!
# Values of YAML nodes

A node denotes a value of a document: its tag decides which, and its text or its parts must fit the
tag.  Entries of other mappings can be taken over, and of two equal keys the later value counts.  A
node that stands in several places denotes one value, so collections keep the numbers of their
nodes.

Collections are filled in the order in which they are met, each before the collections inside it,
and the first fault that is met is reported.  Taking over entries changes the nodes for good: a
mapping takes its entries over once, also when it is met again.
-/

namespace CandidateSearch.Yaml

/-! ## Scalars -/

/-- The value of a word for a truth value, in any case. -/
def flagValue (t : Text) : Except Fault Bool :=
  let w := Text.lower t
  if (["yes", "true", "on"].map String.toList).contains w then .ok true
  else if (["no", "false", "off"].map String.toList).contains w then .ok false
  else .error .unknownFlag

/-- The point of time that a text stands for. -/
def timestampValue (t : Text) : Except Fault Document :=
  match WrittenTime.read? (withoutLineFeed t) with
  | some w => w.value.mapError .badValue
  | none => .error .malformedTimestamp

/-- What a reader makes of a text; halves of characters are a fault. -/
def strictValue {α : Type} (fault : Fault) (read : Text → Except Fault α) (t : LooseText) :
    Except Fault α :=
  match t.strict? with
  | some t => read t
  | none => .error fault

/-- The value of a text under the tag of a scalar. -/
def scalarValue (tag : Tag) (t : LooseText) : Except Fault Document :=
  match tag with
  | .null => .ok .null
  | .bool => (strictValue .unknownFlag flagValue t).map .bool
  | .int => (integerValue t).map .int
  | .float => (fractionValue t).map .float
  | .binary => (strictValue .badConstruction octetsValue t).map .bytes
  | .timestamp => strictValue .malformedTimestamp timestampValue t
  | .text => .ok (.ofLoose t)
  | _ => .error .badConstruction

/-! ## Building -/

/-- The nodes of a document, as far as they have been changed, and what has been built of it. -/
structure Building where
  nodes : Array Node
  /-- The values of the nodes that have been met, by their numbers. -/
  values : Array (Option Key)
  /-- The collections that have been filled, by the numbers of their nodes. -/
  collections : Array Document
  /-- The collections that have been met and not yet filled, the latest first. -/
  waiting : List Nat := []

/-- A step of building. -/
abbrev Build := StateT Building (Except Fault)

namespace Build

/-- The node with a number. -/
def node (n : Nat) : Build Node := return (← get).nodes[n]?.getD .empty

/-- The entries of a mapping; other nodes have none. -/
def entries (n : Nat) : Build (List (Nat × Nat)) := do
  match (← node n).content with
  | .mapping entries => return entries
  | _ => return []

/-- Change the node with a number. -/
def change (n : Nat) (f : Node → Node) : Build Unit :=
  modify fun b => { b with nodes := b.nodes.modify n f }

/-- Change the entries of a mapping. -/
def setEntries (n : Nat) (entries : List (Nat × Nat)) : Build Unit :=
  change n fun node => { node with content := .mapping entries }

/-- The key of an entry has a tag. -/
def keyHasTag (tag : Tag) (entry : Nat × Nat) : Build Bool := return (← node entry.1).tag == tag

/-! ### Texts -/

/-- The text of a scalar, or of the value that stands for a whole mapping. -/
def text : (rounds : Nat) → Nat → Build LooseText
  | 0, _ => throw .tooDeep
  | rounds + 1, n => do
    match (← node n).content with
    | .scalar t => return t
    | .sequence _ => throw .badConstruction
    | .mapping entries =>
      match ← entries.findM? (keyHasTag .defaultValue) with
      | some (_, value) => text rounds value
      | none => throw .badConstruction

/-! ### Entries taken over from other mappings -/

/-- Remove the first entry of a mapping that takes over other entries, and tell where from. -/
def removeSource (n : Nat) : Build (Option Nat) := do
  let all ← entries n
  let rec split (before : List (Nat × Nat)) : List (Nat × Nat) → Build (Option Nat)
    | [] => return none
    | entry :: rest => do
      if ← keyHasTag .merge entry then
        setEntries n (before.reverse ++ rest)
        return some entry.2
      else split (entry :: before) rest
  split [] all

/-- The entries that a node gives to a mapping: those of a mapping, or of the mappings of a
sequence, the first of which counts most.  `settle` makes a mapping take over entries itself. -/
def given (settle : Nat → Build Unit) (source : Nat) : Build (List (Nat × Nat)) := do
  match (← node source).content with
  | .mapping _ =>
    settle source
    entries source
  | .sequence items =>
    let groups ← items.mapM fun item => do
      match (← node item).content with
      | .mapping _ =>
        settle item
        entries item
      | _ => throw .badConstruction
    return groups.reverse.flatten
  | .scalar _ => throw .badConstruction

/-- A key that would stand for a whole mapping becomes a text, since it is a key like others. -/
def settleKey (entry : Nat × Nat) : Build Unit :=
  change entry.1 fun key => if key.tag == .defaultValue then { key with tag := .text } else key

/-- Make a mapping take over the entries that it asks for, in front of its own.  Every round removes
an entry that asks for others, so there are no more rounds than entries. -/
def settle : (rounds : Nat) → Nat → Build Unit
  | 0, _ => throw .tooDeep
  | rounds + 1, n => do
    let asking ← (← entries n).filterM (keyHasTag .merge)
    let taken ← asking.mapM fun _ => do
      match ← removeSource n with
      | some source => given (settle rounds) source
      | none => return []
    let own ← entries n
    own.forM settleKey
    if !taken.flatten.isEmpty then setEntries n (taken.flatten ++ own)

/-- How many entries all mappings have. -/
def entryCount (b : Building) : Nat :=
  b.nodes.foldl (fun count node =>
    match node.content with
    | .mapping entries => count + entries.length
    | _ => count) 0

/-! ### Values -/

/-- The value of a node that has not been met before.  A collection waits to be filled. -/
def firstValue (n : Nat) : Build Key := do
  let node ← node n
  match node.tag with
  | .sequence | .mapping | .set | .orderedMap | .pairs =>
    modify fun b => { b with waiting := n :: b.waiting }
    return ⟨.collection n, n + 1⟩
  | .merge | .defaultValue | .other _ => throw .badConstruction
  | tag =>
    let t ← text ((← get).nodes.size + 1) n
    if let (.timestamp, .mapping _) := (tag, node.content) then throw .timestampMapping
    let value ← scalarValue tag t
    return ⟨value, if tag = .float && isNoNumberWord t then 0 else n + 1⟩

/-- The value of a node. -/
def value (n : Nat) : Build Key := do
  match ((← get).values[n]?).join with
  | some key => return key
  | none =>
    let key ← firstValue n
    modify fun b => { b with values := b.values.setIfInBounds n (some key) }
    return key

/-- The values of nodes. -/
def documents (items : List Nat) : Build (List Document) :=
  items.mapM fun item => return (← value item).value

/-- The value can be a key. -/
def canBeKey : Document → Bool
  | .collection _ => false
  | _ => true

/-- Put the values of entries together, behind those that are done. -/
def keyed (done : List (Key × Document)) : List (Nat × Nat) → Build (List (Key × Document))
  | [] => return done
  | (k, v) :: rest => do
    let key ← value k
    if !canBeKey key.value then throw .badConstruction
    let d := (← value v).value
    keyed (putEntry key d done) rest

/-- The entries of a mapping with their values; all other nodes are refused. -/
def keyedEntries (n : Nat) : Build (List (Key × Document)) := do
  match (← node n).content with
  | .mapping _ =>
    settle (entryCount (← get) + 1) n
    keyed [] (← entries n)
  | _ => throw .badConstruction

/-- The value of an item of a list of pairs, a mapping with one entry. -/
def pair (item : Nat) : Build Document := do
  match (← node item).content with
  | .mapping [(key, v)] =>
    let first := (← value key).value
    return .pair first (← value v).value
  | _ => throw .badConstruction

/-- What a collection holds. -/
def parts (n : Nat) : Build Document := do
  let node ← node n
  match node.tag, node.content with
  | .sequence, .sequence items => return .list (← documents items)
  | .orderedMap, .sequence items | .pairs, .sequence items => return .list (← items.mapM pair)
  | .mapping, _ => return .mapping ((← keyedEntries n).map fun (key, d) => (key.value, d))
  | .set, _ => return .set (arranged ((← keyedEntries n).map (·.1.value)))
  | _, _ => throw .badConstruction

/-- Fill the collections that wait, and those that are met meanwhile.  Every collection waits
once. -/
def fill : (rounds : Nat) → Build Unit
  | 0 => return
  | rounds + 1 => do
    let waiting := (← get).waiting.reverse
    modify fun b => { b with waiting := [] }
    waiting.forM fun n => do
      let d ← parts n
      modify fun b => { b with collections := b.collections.setIfInBounds n d }
    if !waiting.isEmpty then fill rounds

end Build

/-- The value of a document. -/
def Graph.value (g : Graph) : Except Fault Part := do
  let start : Building :=
    { nodes := g.nodes
      values := Array.replicate g.nodes.size none
      collections := Array.replicate g.nodes.size .null }
  let build : Build Key := do
    let key ← Build.value g.root
    Build.fill (g.nodes.size + 1)
    return key
  let (key, b) ← build.run start
  return ⟨b.collections, key.value⟩

/-- The value that a YAML text denotes, null if it holds no document. -/
def load (t : Text) : Except Fault Part := do
  match ← Graph.ofTokens? (tokensOf t) with
  | some g => g.value
  | none => return Document.null.whole

end CandidateSearch.Yaml

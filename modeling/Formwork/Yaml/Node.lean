/-
  Formwork.Yaml.Node: the nodes that a YAML document describes.

  Nodes are read from tokens by recursive descent and are numbered. What a collection holds
  is told by numbers, so that an alias is the number of the node under its anchor, even
  within that node itself. What a node is comes from its tag, or from the text of a plain
  scalar, or from its shape. A stream holds one document at most.
-/

import Formwork.Entries
import Formwork.Yaml.Scalar
import Formwork.Yaml.Token

namespace Formwork.Yaml

abbrev NodeId := Nat

inductive Node where
  | scalar (kind : Kind) (text : Text.Points)
  | sequence (kind : Kind) (items : List NodeId)
  | mapping (kind : Kind) (entries : List (NodeId × NodeId))
  deriving Repr

instance : Inhabited Node := ⟨.scalar .null (.text "")⟩

def Node.kind : Node → Kind
  | scalar kind _ | sequence kind _ | mapping kind _ => kind

def Node.withKind (kind : Kind) : Node → Node
  | scalar _ text => scalar kind text
  | sequence _ items => sequence kind items
  | mapping _ entries => mapping kind entries

def Token.error : Option Token → Error
  | some (.failed e) => e
  | _ => .malformed

structure Reader where
  rest : List Token
  handles : Entries String
  anchors : Entries NodeId := []
  nodes : Array Node := #[]

abbrev Read (α : Type) := StateT Reader (Except Error) α

namespace Read

def peek : Read (Option Token) := do return (← get).rest.head?

def skip : Read Unit := modify fun r => { r with rest := r.rest.drop 1 }

def fail {α : Type} : Read α := do throw (Token.error (← peek))

def expect (t : Token) : Read Unit := do
  if (← peek) == some t then skip else fail

def accept (t : Token) : Read Bool := do
  if (← peek) == some t then
    skip
    return true
  else return false

def comes (ts : List Token) : Read Bool := do return (← peek).any ts.contains

def fullTag (handle : Option String) (suffix : String) : Read String := do
  match handle with
  | none => return suffix
  | some h =>
    match (← get).handles.get? h with
    | some uri => return uri ++ suffix
    | none => throw .malformed

def anchor? : Read (Option String) := do
  match ← peek with
  | some (.anchor name) =>
    skip
    return some name
  | _ => return none

def tag? : Read (Option (Option String × String)) := do
  match ← peek with
  | some (.tag handle suffix) =>
    skip
    return some (handle, suffix)
  | _ => return none

def properties : Read (Option String × Option String) := do
  let first ← anchor?
  let tag ← tag?
  let anchor ← if first.isNone then anchor? else pure first
  match tag with
  | none => return (anchor, none)
  | some (handle, suffix) => return (anchor, some (← fullTag handle suffix))

/-! ## Nodes -/

/-- A new node, under its anchor if it has one; an anchor is given once. -/
def add (anchor : Option String) (n : Node) : Read NodeId := do
  let r ← get
  if anchor.any fun name => (r.anchors.get? name).isSome then throw .malformed
  let anchors := (match anchor with
    | some name => r.anchors.put name r.nodes.size
    | none => r.anchors)
  set { r with anchors, nodes := r.nodes.push n }
  return r.nodes.size

def nothing : Read NodeId := add none default

def fill (id : NodeId) (n : Node) : Read Unit := modify fun r => { r with nodes := r.nodes.setIfInBounds id n }

/-- What a tag says about a node; `!` says nothing. -/
def kindOf (tag : Option String) (otherwise : Kind) : Kind :=
  match tag.filter (· != "!") with
  | some tag => .ofTag tag
  | none => otherwise

/-- A scalar; without a telling tag its text may say what it is, if it is open. -/
def scalar (anchor tag : Option String) (isOpen : Bool) (text : Text.Points) : Read NodeId :=
  add anchor (.scalar (kindOf tag (if isOpen then .ofText text else .text)) text)

/-- A sequence, known under its anchor before its items are read. -/
def sequence (anchor tag : Option String) (items : Read (List NodeId)) : Read NodeId := do
  let kind := kindOf tag .sequence
  let id ← add anchor (.sequence kind [])
  fill id (.sequence kind (← items))
  return id

/-- A mapping, known under its anchor before its entries are read. -/
def mapping (anchor tag : Option String) (entries : Read (List (NodeId × NodeId))) : Read NodeId := do
  let kind := kindOf tag .mapping
  let id ← add anchor (.mapping kind [])
  fill id (.mapping kind (← entries))
  return id

/-- Where a node stands decides which collections it may be. -/
inductive Position where
  | block
  /-- A block node that may be a sequence at the column of the mapping around it. -/
  | mapped
  | flow
  deriving DecidableEq, Repr

mutual

def node : Nat → Position → Read NodeId
  | 0, _ => throw .malformed
  | fuel + 1, position => do
    match ← peek with
    | some (.alias name) =>
      skip
      match (← get).anchors.get? name with
      | some id => return id
      | none => throw .malformed
    | _ =>
      let (anchor, tag) ← properties
      content fuel position anchor tag

def content : Nat → Position → Option String → Option String → Read NodeId
  | 0, _, _, _ => throw .malformed
  | fuel + 1, position, anchor, tag => do
    match ← peek, position with
    | some .blockEntry, .mapped => sequence anchor tag (hangingEntries fuel)
    | some (.scalar plain text), _ =>
      let id ← scalar anchor tag ((plain && tag.isNone) || tag == some "!") text
      skip
      return id
    | some .flowSequence, _ => sequence anchor tag (do skip; flowItems fuel true)
    | some .flowMapping, _ => mapping anchor tag (do skip; flowEntries fuel true)
    | some .blockSequence, .block | some .blockSequence, .mapped => sequence anchor tag (do skip; blockItems fuel)
    | some .blockMapping, .block | some .blockMapping, .mapped => mapping anchor tag (do skip; blockEntries fuel)
    | _, _ =>
      if anchor.isNone && tag.isNone then fail
      else scalar anchor tag (tag.isNone || tag == some "!") (.text "")

/-- A node, or nothing before one of these tokens. -/
def nodeUnless : Nat → Position → List Token → Read NodeId
  | 0, _, _ => throw .malformed
  | fuel + 1, position, stops => do
    if ← comes stops then nothing else node fuel position

def blockItems : Nat → Read (List NodeId)
  | 0 => throw .malformed
  | fuel + 1 => do
    if ← accept .blockEntry then
      let n ← nodeUnless fuel .block [.blockEntry, .blockEnd]
      return n :: (← blockItems fuel)
    expect .blockEnd
    return []

/-- The items of a sequence at the column of the mapping around it. -/
def hangingEntries : Nat → Read (List NodeId)
  | 0 => throw .malformed
  | fuel + 1 => do
    if ← accept .blockEntry then
      let n ← nodeUnless fuel .block [.blockEntry, .key, .value, .blockEnd]
      return n :: (← hangingEntries fuel)
    return []

def blockValue : Nat → Read NodeId
  | 0 => throw .malformed
  | fuel + 1 => do
    if ← accept .value then nodeUnless fuel .mapped [.key, .value, .blockEnd] else nothing

def blockEntries : Nat → Read (List (NodeId × NodeId))
  | 0 => throw .malformed
  | fuel + 1 => do
    if ← accept .key then
      let k ← nodeUnless fuel .mapped [.key, .value, .blockEnd]
      let v ← blockValue fuel
      return (k, v) :: (← blockEntries fuel)
    expect .blockEnd
    return []

/-- The value behind a key of a flow collection that ends as given. -/
def flowValue : Nat → Token → Read NodeId
  | 0, _ => throw .malformed
  | fuel + 1, closing => do
    if ← accept .value then nodeUnless fuel .flow [.flowEntry, closing] else nothing

/-- The items of a flow sequence; a key among them begins a mapping of one entry. -/
def flowItems : Nat → Bool → Read (List NodeId)
  | 0, _ => throw .malformed
  | fuel + 1, first => do
    if ← accept .flowSequenceEnd then return []
    if !first then expect .flowEntry
    if ← accept .key then
      let k ← nodeUnless fuel .flow [.value, .flowEntry, .flowSequenceEnd]
      let v ← flowValue fuel .flowSequenceEnd
      let n ← add none (.mapping .mapping [(k, v)])
      return n :: (← flowItems fuel false)
    if ← accept .flowSequenceEnd then return []
    let n ← node fuel .flow
    return n :: (← flowItems fuel false)

/-- The entries of a flow mapping; one that is no key stands for itself with no value. -/
def flowEntries : Nat → Bool → Read (List (NodeId × NodeId))
  | 0, _ => throw .malformed
  | fuel + 1, first => do
    if ← accept .flowMappingEnd then return []
    if !first then expect .flowEntry
    if ← accept .key then
      let k ← nodeUnless fuel .flow [.value, .flowEntry, .flowMappingEnd]
      let v ← flowValue fuel .flowMappingEnd
      return (k, v) :: (← flowEntries fuel false)
    if ← accept .flowMappingEnd then return []
    let k ← node fuel .flow
    let v ← nothing
    return (k, v) :: (← flowEntries fuel false)

end

/-! ## Documents -/

def defaultHandles : Entries String := [("!", "!"), ("!!", "tag:yaml.org,2002:")]

/-- The directives before a document: one version of 1 at most, and each handle once. -/
def directives : Nat → Bool → Entries String → Read (Entries String)
  | 0, _, _ => throw .malformed
  | fuel + 1, versioned, handles => do
    match ← peek with
    | some (.version major) =>
      if versioned || major != 1 then throw .malformed
      skip
      directives fuel true handles
    | some (.handle name uri) =>
      if (handles.get? name).isSome then throw .malformed
      skip
      directives fuel versioned (handles.put name uri)
    | some .directive =>
      skip
      directives fuel versioned handles
    | _ => return handles

def skipEnds : Nat → Read Unit
  | 0 => pure ()
  | fuel + 1 => do
    if ← accept .documentEnd then skipEnds fuel

def isDocumentMark : Token → Bool
  | .version _ | .handle .. | .directive | .documentStart | .documentEnd => true
  | _ => false

def markedDocument (fuel : Nat) : Read NodeId := do
  let handles ← directives fuel false []
  expect .documentStart
  modify fun r => { r with handles := handles ++ defaultHandles }
  match ← peek with
  | none => nothing
  | some t => if isDocumentMark t then nothing else node fuel .block

def single (fuel : Nat) : Read (Option NodeId) := do
  let unmarked := (← peek).any fun t => !isDocumentMark t || t == .documentEnd
  if !unmarked then
    skipEnds fuel
    if (← peek).isNone then return none
  let n ← if unmarked then node fuel .block else markedDocument fuel
  let _ ← accept .documentEnd
  skipEnds fuel
  if (← peek).isSome then fail
  return some n

end Read

structure Graph where
  nodes : Array Node
  root : NodeId
  deriving Repr

def Graph.read (text : String) : Except Error (Option Graph) := do
  let ts := tokens text
  let (root, r) ← (Read.single (4 * ts.length + 8)).run { rest := ts, handles := Read.defaultHandles }
  return root.map fun root => ⟨r.nodes, root⟩

end Formwork.Yaml

/-
  Formwork.Yaml.Making: what the nodes of a document stand for.

  A node stands for a scalar or for a collection. A scalar is made when it is first come to.
  A collection is first made empty and filled later, in the order in which the collections
  were come to; so a collection may be part of itself, and of two errors the one that is
  come to first counts. Each node is made once, however often it is pointed at.
-/

import Formwork.Yaml.Merging

namespace Formwork.Yaml

/-- What a node stands for; a collection has the number of its node. -/
inductive Item where
  | scalar (s : Scalar)
  | collection (id : NodeId)
  deriving Repr

inductive Collection where
  | list (items : List Item)
  /-- A list of lists of two. -/
  | pairs (items : List (Item × Item))
  | map (entries : List (Scalar × Item))
  | set (members : List Scalar)
  deriving Repr

instance : Inhabited Collection := ⟨.list []⟩

structure Workshop where
  nodes : Nodes
  /-- By node, what has been made of it. -/
  made : Array (Option Item)
  /-- By node, the collection that it stands for. -/
  collections : Array Collection
  /-- The collections in the order in which they were come to. -/
  begun : Array NodeId := #[]
  /-- More than there are merge keys. -/
  mergeBound : Nat

abbrev Make (α : Type) := StateT Workshop (Except Error) α

namespace Make

/-- The text of a scalar, or of the default that stands for a whole mapping. -/
def textOf (nodes : Nodes) : Nat → NodeId → Except Error Text.Points
  | 0, _ => .error .endlessDefault
  | fuel + 1, id =>
    match nodes[id]? with
    | some (.scalar _ text) => .ok text
    | some (.mapping _ entries) =>
      match entries.find? fun e => nodes.kind e.1 == .default with
      | some e => textOf nodes fuel e.2
      | none => .error .malformed
    | _ => .error .malformed

def scalarAt (nodes : Nodes) (id : NodeId) : Except Error Scalar := do
  let kind := nodes.kind id
  if !kind.isScalar then throw .malformed
  let text ← textOf nodes (nodes.size + 1) id
  if kind == .timestamp && (nodes.entries? id).isSome then throw .timestampMapping
  scalarOf kind text

def item (id : NodeId) : Make Item := do
  let w ← get
  match w.made[id]?.join with
  | some made => return made
  | none =>
    if (w.nodes.kind id).isCollection then
      set { w with made := w.made.setIfInBounds id (some (.collection id)), begun := w.begun.push id }
      return .collection id
    else
      let s ← scalarAt w.nodes id
      modify fun w => { w with made := w.made.setIfInBounds id (some (.scalar s)) }
      return .scalar s

def key (id : NodeId) : Make Scalar := do
  match ← item id with
  | .scalar s => return s
  | .collection _ => throw .malformed

def entries (id : NodeId) : Make (List (Scalar × Item)) := do
  let w ← get
  if (w.nodes.entries? id).isNone then throw .malformed
  let nodes ← merge w.mergeBound id w.nodes
  set { w with nodes }
  let pairs ← ((nodes.entries? id).getD []).mapM fun e => do return (← key e.1, ← item e.2)
  return Scalar.distinct pairs

def items (id : NodeId) : Make (List NodeId) := do
  match (← get).nodes[id]? with
  | some (.sequence _ items) => return items
  | _ => throw .malformed

/-- A mapping of one entry as a list of two. -/
def pair (id : NodeId) : Make (Item × Item) := do
  match (← get).nodes.entries? id with
  | some [(k, v)] => return (← item k, ← item v)
  | _ => throw .malformed

def fill (id : NodeId) : Make Unit := do
  let filled ←
    match (← get).nodes.kind id with
    | .pairs => do pure (Collection.pairs (← (← items id).mapM pair))
    | .mapping => do pure (.map (← entries id))
    | .set => do pure (.set ((← entries id).map (·.1)))
    | _ => do pure (.list (← (← items id).mapM item))
  modify fun w => { w with collections := w.collections.setIfInBounds id filled }

/-- Fills every collection from the `i`-th that was begun on. -/
def fillFrom : Nat → Nat → Make Unit
  | 0, _ => pure ()
  | fuel + 1, i => do
    match (← get).begun[i]? with
    | some id =>
      fill id
      fillFrom fuel (i + 1)
    | none => pure ()

def document (g : Graph) : Except Error (Item × Array Collection) := do
  let start : Workshop := {
    nodes := g.nodes, made := Array.replicate g.nodes.size none, collections := Array.replicate g.nodes.size default,
    mergeBound := Nodes.mergeBound g.nodes }
  let (root, w) ← (do
    let root ← item g.root
    fillFrom g.nodes.size 0
    return root : Make Item).run start
  return (root, w.collections)

end Make

end Formwork.Yaml

/-
  Formwork.Yaml.Merging: merge keys worked into mappings.

  The value under a merge key is a mapping or a sequence of mappings. Their entries come
  before those of the mapping around them, which therefore win; of several merged mappings
  the first wins. What is merged has its own merge keys worked in first. Every merge key is
  taken out before what it brings is looked at, so a mapping may bring itself.
-/

import Formwork.Yaml.Node

namespace Formwork.Yaml

def Node.entryCount : Node → Nat
  | mapping _ entries => entries.length
  | _ => 0

abbrev Nodes := Array Node

namespace Nodes

def kind (nodes : Nodes) (id : NodeId) : Kind := (nodes[id]?.map Node.kind).getD .unknown

def entries? (nodes : Nodes) (id : NodeId) : Option (List (NodeId × NodeId)) :=
  match nodes[id]? with
  | some (.mapping _ entries) => some entries
  | _ => none

def setEntries (nodes : Nodes) (id : NodeId) (entries : List (NodeId × NodeId)) : Nodes :=
  nodes.setIfInBounds id (.mapping (nodes.kind id) entries)

/-- The sign of a default is a text from now on. -/
def keepAsText (nodes : Nodes) (id : NodeId) : Nodes :=
  match nodes[id]? with
  | some n => if n.kind == .default then nodes.setIfInBounds id (n.withKind .text) else nodes
  | none => nodes

/-- Takes the first merge key out of a mapping, and gives its value. -/
def takeMerge (nodes : Nodes) (id : NodeId) : Option (NodeId × Nodes) := do
  let entries ← nodes.entries? id
  let before := entries.takeWhile fun e => nodes.kind e.1 != .merge
  match entries.drop before.length with
  | (_, source) :: after => some (source, nodes.setEntries id (before ++ after))
  | [] => none

/-- More than there are merge keys in the document. -/
def mergeBound (nodes : Nodes) : Nat := nodes.foldl (fun n node => n + node.entryCount) 1

end Nodes

def bringOne (merge : NodeId → Nodes → Except Error Nodes) (id : NodeId) (nodes : Nodes) :
    Except Error (List (NodeId × NodeId) × Nodes) := do
  if (nodes.entries? id).isNone then throw .malformed
  let nodes ← merge id nodes
  return ((nodes.entries? id).getD [], nodes)

/-- The entries that the value of a merge key brings: those of a mapping, or of several with the first one last. -/
def bring (merge : NodeId → Nodes → Except Error Nodes) (source : NodeId) (nodes : Nodes) :
    Except Error (List (NodeId × NodeId) × Nodes) :=
  match nodes[source]? with
  | some (.sequence _ items) =>
    items.foldlM (fun (brought, nodes) id => do
      let (entries, nodes) ← bringOne merge id nodes
      return (entries ++ brought, nodes)) ([], nodes)
  | _ => bringOne merge source nodes

/-- Works the merge keys of a mapping in; `fuel` bounds their number. -/
def merge : Nat → NodeId → Nodes → Except Error Nodes
  | 0, _, nodes => .ok nodes
  | fuel + 1, id, nodes =>
    match nodes.takeMerge id with
    | none => .ok (((nodes.entries? id).getD []).foldl (fun nodes e => nodes.keepAsText e.1) nodes)
    | some (source, nodes) => do
      let (brought, nodes) ← bring (merge fuel) source nodes
      let nodes ← merge fuel id nodes
      return nodes.setEntries id (brought ++ (nodes.entries? id).getD [])

end Formwork.Yaml

/-
  Formwork.Yaml.Reading: the value of a YAML document.

  The collections of a document are laid out as one value. What is pointed at more than once
  is part of the value more than once. A collection that is part of itself is laid out again
  within itself until `layers` collections stand around it, and there the value is endless:
  no type of document is nested as deep.
-/

import Formwork.Yaml.Making

namespace Formwork.Yaml

/-- How deep a collection within itself is laid out. -/
def layers : Nat := 7

/-- Values laid out so far, by collection; only those that come to no end of their own are left out. -/
abbrev Layout (α : Type) := StateM (Array (Option Value)) α

namespace Layout

def itemOf (below : NodeId → Layout (Value × Bool)) : Item → Layout (Value × Bool)
  | .scalar s => return (.scalar s, true)
  | .collection id => below id

/-- The value of a collection, and whether it is the same wherever it stands; `path` holds the
collections around it. -/
def collection (collections : Array Collection) : Nat → List NodeId → NodeId → Layout (Value × Bool)
  | 0, _, _ => return (.endless, false)
  | fuel + 1, path, id => do
    if let some v := (← get)[id]?.join then return (v, true)
    if path.contains id && layers ≤ path.length then return (.endless, false)
    let item := itemOf (collection collections fuel (id :: path))
    let (v, fixed) ←
      match collections[id]?.getD default with
      | .list items => do
        let values ← items.mapM item
        pure (Value.list (values.map (·.1)), values.all (·.2))
      | .pairs pairs => do
        let values ← pairs.mapM fun p => do return (← item p.1, ← item p.2)
        pure (.list (values.map fun p => .list [p.1.1, p.2.1]), values.all fun p => p.1.2 && p.2.2)
      | .map entries => do
        let values ← entries.mapM fun e => do return (e.1, ← item e.2)
        pure (.map (values.map fun e => (e.1, e.2.1)), values.all (·.2.2))
      | .set members => pure (.set members, true)
    if fixed then modify (·.setIfInBounds id (some v))
    return (v, fixed)

end Layout

def read (document : String) : Except Error Value := do
  match ← Graph.read document with
  | none => return .null
  | some g =>
    let (root, collections) ← Make.document g
    let layout := Layout.itemOf (Layout.collection collections (collections.size + layers + 1) []) root
    return (layout.run (Array.replicate collections.size none)).1.1

end Formwork.Yaml

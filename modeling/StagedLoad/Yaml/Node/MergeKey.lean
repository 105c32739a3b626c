import StagedLoad.Yaml.Node
import StagedLoad.Yaml.Token

/-!
# Merge keys

Under a merge key stands a map, or a list of maps, whose entries are taken into the map around it:
in front of its own entries, so that of equal keys its own count, and those of a later map of a list
in front of those of an earlier one.  A map is changed by this where it stands, and it stays changed
for everything that refers to it; a map can be taken into itself.

* `Nodes.popMergeKey_eq_none` : a map without a merge key stays as it is.
-/

namespace StagedLoad.Yaml

/-- Changing the nodes of a document. -/
abbrev Nodes := StateT (Array Node) (Except DocumentFault)

namespace Nodes

/-- Whether the node has the tag. -/
def hasTag (nodes : Array Node) (tag : Tag) (n : Nat) : Bool := nodes[n]?.any (·.tag = tag)

/-- The entries of a map; another node has none. -/
def entriesAt (n : Nat) : Nodes (List (Nat × Nat)) := do
  match (← get)[n]? with
  | some (.mapping _ entries) => return entries
  | _ => return []

/-- Changes a node. -/
def change (n : Nat) (f : Node → Node) : Nodes Unit := modify fun nodes => nodes.modify n f

/-- Gives a map other entries. -/
def setEntries (n : Nat) (entries : List (Nat × Nat)) : Nodes Unit :=
  change n fun
    | .mapping tag _ => .mapping tag entries
    | node => node

/-- Takes the first merge key out of a map and tells the node under it. -/
def popMergeKey (n : Nat) : Nodes (Option Nat) := do
  let entries ← entriesAt n
  let nodes ← get
  let isMerge := fun e : Nat × Nat => hasTag nodes .merge e.1
  match entries.find? isMerge with
  | none => return none
  | some (_, v) =>
    setEntries n (entries.eraseP isMerge)
    return some v

/-- Where no key is a merge key, none is taken out. -/
theorem popMergeKey_eq_none {nodes : Array Node} {n : Nat} {tag : Tag} {entries : List (Nat × Nat)}
    (hn : nodes[n]? = some (.mapping tag entries))
    (h : ∀ e ∈ entries, hasTag nodes .merge e.1 = false) :
    (popMergeKey n).run nodes = .ok (none, nodes) := by
  have hf : entries.find? (fun e => hasTag nodes .merge e.1) = none := by
    rw [List.find?_eq_none]
    intro e he
    simp [h e he]
  simp [popMergeKey, entriesAt, hn, hf]
  rfl

/-- Makes the value keys of a map plain texts. -/
def plainKeys (n : Nat) : Nodes Unit := do
  for (k, _) in ← entriesAt n do
    if hasTag (← get) .value k then change k (.withTag .text)

mutual

/-- Takes the maps under the merge keys of a map into it.  Each step but the last takes a merge key
out of a map, which bounds their number. -/
def takeIn : Nat → Nat → Nodes Unit
  | 0, _ => throw .endless
  | fuel + 1, n => do
    match ← popMergeKey n with
    | none => plainKeys n
    | some v =>
      let taken ← takenFrom fuel v
      takeIn fuel n
      setEntries n (taken ++ (← entriesAt n))

/-- The entries to be taken from a map or from a list of maps. -/
def takenFrom : Nat → Nat → Nodes (List (Nat × Nat))
  | 0, _ => throw .endless
  | fuel + 1, n => do
    match (← get)[n]? with
    | some (.mapping _ _) => takeIn fuel n; entriesAt n
    | some (.sequence _ items) =>
      let part (item : Nat) : Nodes (List (Nat × Nat)) := do
        match (← get)[item]? with
        | some (.mapping _ _) => takeIn fuel item; entriesAt item
        | _ => throw .malformed
      return (← items.mapM part).reverse.flatten
    | _ => throw .malformed

end

/-- The number of entries of all maps. -/
def entryCount (nodes : Array Node) : Nat :=
  nodes.foldl (fun n node => n + node.parts.length) 0

end Nodes

end StagedLoad.Yaml

import StagedLoad.Yaml.Cell
import StagedLoad.Yaml.Node.Graph
import StagedLoad.Yaml.Node.MergeKey
import StagedLoad.Yaml.Scalar
import StagedLoad.Yaml.Token.Stream

/-!
# Values of nodes and documents

The value of a node is made once, however many aliases stand for the node.  A scalar has its value
at once.  A list or a map begins as an empty cell, which is filled when everything that was begun
before it has been filled; so of several faults the outermost counts, and of those at one depth the
first.

A document is read from its text by way of tokens, nodes and values.

* `Yaml.Build.make_of_made` : a node that has a value keeps it.
* `Document.parse_of_foreign` : a text with a symbol that no document may hold is none.
-/

namespace StagedLoad

namespace Yaml

/-- The values made so far. -/
structure Build where
  nodes : Array Node
  /-- The values of nodes; a list or a map is a reference to its cell. -/
  made : Array (Option Value)
  cells : Array Value := #[]
  /-- The cells to be filled later, the last one first, each with its node. -/
  later : List (Nat × Nat) := []
  /-- The number of the document. -/
  document : Nat := 0

namespace Build

/-- Making of values. -/
abbrev Builder := StateT Build (Except DocumentFault)

/-- The text of a node that is used as a scalar: for a map it is that under its value key. -/
def scalarText (nodes : Array Node) : Nat → Nat → Except DocumentFault Text
  | 0, _ => .error .endless
  | fuel + 1, n =>
    match nodes[n]? with
    | some (.scalar _ text) => .ok text
    | some (.mapping _ entries) =>
      match entries.find? fun (k, _) => Nodes.hasTag nodes .value k with
      | some (_, v) => scalarText nodes fuel v
      | none => .error .malformed
    | _ => .error .malformed

/-- A number for a node that no node of any other document has. -/
def serial (document n : Nat) : Nat := document * Nat.pow 2 24 + n + 1

/-- What a node denotes as a scalar. -/
def scalar (nodes : Array Node) (document n : Nat) (node : Node) : Except DocumentFault Value := do
  let text ← scalarText nodes (nodes.size + 1) n
  match node.tag, node with
  | .timestamp, .mapping _ _ => throw .dateInMap
  | tag, _ => scalarValue tag (serial document n) text

/-- Adds a cell. -/
def addCell (content : Value) : Builder Value := fun b =>
  .ok (.knot [] b.cells.size, { b with cells := b.cells.push content })

/-- Fills a cell. -/
def setCell (cell : Nat) (content : Value) : Builder Unit :=
  modify fun b => { b with cells := b.cells.setIfInBounds cell content }

/-- The value of a node, made now if it has none yet. -/
def make (n : Nat) : Builder Value := do
  let b ← get
  match (b.made[n]?).join with
  | some v => return v
  | none =>
    let node := b.nodes[n]?.getD default
    let v ← match node.tag.kind with
      | .scalar => liftM (scalar b.nodes b.document n node)
      | .collection =>
        modify fun b => { b with later := (b.cells.size, n) :: b.later }
        addCell (.list [])
      | .none => throw .malformed
    modify fun b => { b with made := b.made.setIfInBounds n (some v) }
    return v

/-- A node that has a value keeps it. -/
theorem make_of_made {b : Build} {n : Nat} {v : Value} (h : (b.made[n]?).join = some v) :
    (make n).run b = .ok (v, b) := by
  simp only [make, StateT.run, bind, StateT.bind, get, getThe, MonadStateOf.get, StateT.get,
    Except.bind, pure, Except.pure, h]
  rfl

/-- The value of a node that is a key of a map. -/
def makeKey (n : Nat) : Builder Value := do
  match ← make n with
  | .knot _ _ => throw .malformed
  | v => return v

/-- The entries of a map, with those that are taken in; of equal keys the last one counts. -/
def mapEntries (n : Nat) : Builder Entries := do
  let b ← get
  let (_, nodes) ← liftM ((Nodes.takeIn (Nodes.entryCount b.nodes + 2) n).run b.nodes)
  modify fun b => { b with nodes }
  let (entries, _) ← liftM ((Nodes.entriesAt n).run nodes)
  entries.foldlM (fun es e => do
    let k ← makeKey e.1
    let v ← make e.2
    return Entries.put k v es) []

/-- A pair, which is a map with one entry. -/
def makePair (n : Nat) : Builder Value := do
  match (← get).nodes[n]? with
  | some (.mapping _ [(k, v)]) =>
    let k ← make k
    let v ← make v
    addCell (.list [k, v])
  | _ => throw .malformed

/-- Fills a cell with the value of its node. -/
def fill (cell n : Nat) : Builder Unit := do
  let node := (← get).nodes[n]?.getD default
  let content ← match node.tag, node with
    | .list, .sequence _ items => Value.list <$> items.mapM make
    | .pairs, .sequence _ items => Value.list <$> items.mapM makePair
    | .map, .mapping _ _ => Value.map <$> mapEntries n
    | .set, .mapping _ _ => (Value.list ∘ Entries.keys) <$> mapEntries n
    | _, _ => throw .malformed
  setCell cell content

/-- Fills cells, round by round, until none is left.  Every node is filled at most once. -/
def fillAll : Nat → Builder Unit
  | 0 => return ()
  | fuel + 1 => do
    let round := (← get).later.reverse
    if round.isEmpty then return ()
    modify fun b => { b with later := [] }
    round.forM fun (cell, n) => fill cell n
    fillAll fuel

end Build

/-- The value of a document, which has the number among all documents. -/
def Graph.value (document : Nat) (g : Graph) : Except DocumentFault Value := do
  let build : Build.Builder Value := do
    let v ← Build.make g.root
    Build.fillAll (g.nodes.size + 1)
    return Cell.value (← get).cells v
  build.run' { nodes := g.nodes, made := Array.replicate g.nodes.size none, document }

end Yaml

/-! ## Documents -/

/-- The data of the only document in the text, if there is one.  Documents that are used together
have different numbers. -/
def Document.parse (number : Nat) (text : Text) : Except DocumentFault (Option Value) := do
  if text.all (Symbol.isChar Yaml.isDocumentChar) then
    match ← Yaml.Graph.ofTokens? (Yaml.tokensOf text.shown) with
    | none => return none
    | some g => return some (← g.value number)
  else throw .malformed

/-- A text with a symbol that no document may hold is none. -/
theorem Document.parse_of_foreign (number : Nat) {text : Text} {x : Symbol} (hx : x ∈ text)
    (h : x.isChar Yaml.isDocumentChar = false) : parse number text = .error .malformed := by
  have : text.all (Symbol.isChar Yaml.isDocumentChar) = false := by
    rw [List.all_eq_false]
    exact ⟨x, hx, by simp [h]⟩
  simp only [parse, this]
  rfl

end StagedLoad

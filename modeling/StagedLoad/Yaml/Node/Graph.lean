import StagedLoad.Yaml.Node.Resolve
import StagedLoad.Yaml.Token

/-!
# The nodes of a document

Tokens become nodes.  In blocks a member or a value may be missing, and a list may stand at the
column of its key; what is missing is an empty scalar.  Anchors name nodes, and an alias stands for
the named node, which has its name before its parts are read.  A text holds at most one document.

* `Draft.next_broken` : the fault of the scanner is reported when its place is reached, not before.
-/

namespace StagedLoad.Yaml

/-- A document that is partly read. -/
structure Draft where
  tokens : List Token
  /-- The nodes by their numbers. -/
  nodes : Array Node := #[]
  /-- The names of nodes. -/
  anchors : List (String × Nat) := []
  /-- The handles of tags, with what they stand for. -/
  handles : List (String × String) := []
  /-- The number of lists and maps around this place. -/
  depth : Nat := 0

namespace Draft

/-- Reading of a document. -/
abbrev Reader := StateT Draft (Except DocumentFault)

/-- The next token, if there is one. -/
def next : Reader (Option Token) := fun s =>
  match s.tokens with
  | .broken f :: _ => .error f
  | t :: _ => .ok (some t, s)
  | [] => .ok (none, s)

/-- Where the tokens break off, their fault comes out. -/
theorem next_broken {s : Draft} {f : DocumentFault} {ts : List Token}
    (h : s.tokens = .broken f :: ts) : next s = .error f := by
  simp [next, h]

/-- Goes on behind the next token. -/
def skip : Reader Unit := modify fun s => { s with tokens := s.tokens.drop 1 }

/-- The text is no document. -/
def fail {α : Type} : Reader α := throw .malformed

/-- Whether the next token is one of these. -/
def nextIs (ts : List Token) : Reader Bool := return (← next).any ts.contains

/-- Adds a node, with a name or without one, and tells its number. -/
def add (anchor : Option String) (n : Node) : Reader Nat := fun s =>
  let number := s.nodes.size
  let named := anchor.toList.map fun name => (name, number)
  .ok (number, { s with nodes := s.nodes.push n, anchors := named ++ s.anchors })

/-- Adds what stands for a missing node. -/
def missing : Reader Nat := add none (.scalar .null [])

/-- How deep lists and maps may lie inside each other. -/
def nestingLimit : Nat := 489

/-- Adds a list or a map whose parts are read when it has its name. -/
def collection {α : Type} (anchor : Option String) (make : List α → Node)
    (read : Reader (List α)) : Reader Nat := do
  if nestingLimit ≤ (← get).depth then throw .endless
  let number ← add anchor (make [])
  modify fun s => { s with depth := s.depth + 1 }
  let parts ← read
  modify fun s =>
    { s with nodes := s.nodes.setIfInBounds number (make parts), depth := s.depth - 1 }
  return number

/-- The address of a tag. -/
def tagAddress (handle : Option String) (suffix : String) : Reader String := do
  match handle with
  | none => return suffix
  | some h =>
    match (← get).handles.lookup h with
    | some target => return target ++ suffix
    | none => fail

/-- The anchor and the tag before a node, in either order. -/
def properties : Reader (Option String × Option String) := do
  let anchorHere : Reader (Option String) := do
    match ← next with
    | some (.anchor name) => skip; return some name
    | _ => return none
  let tagHere : Reader (Option (Option String × String)) := do
    match ← next with
    | some (.tag handle suffix) => skip; return some (handle, suffix)
    | _ => return none
  let anchor ← anchorHere
  let tag ← tagHere
  let anchor ← if anchor.isNone && tag.isSome then anchorHere else pure anchor
  match tag with
  | none => return (anchor, none)
  | some (handle, suffix) => return (anchor, some (← tagAddress handle suffix))

/-- The tag with the address, or the one that is meant without an address. -/
def tagOr (implied : Tag) : Option String → Tag
  | none => implied
  | some "!" => implied
  | some address => .ofAddress address

/-- The tag of a scalar: only a plain one, or one that is marked so, has its tag from how it is
written. -/
def scalarTag (address : Option String) (plain : Bool) (text : Text) : Tag :=
  tagOr (if plain || address.isSome then resolve text else .text) address

/-- Whether the name is given already. -/
def isTaken (anchor : Option String) : Reader Bool := do
  let names := (← get).anchors.map (·.1)
  return anchor.any names.contains

/-- The node that the alias stands for. -/
def aliased (name : String) : Reader Nat := do
  match (← get).anchors.lookup name with
  | none => fail
  | some n => return n

mutual

/-- A node; where it may be a block, and where a list may stand at the column of its key. -/
def node (block indentless : Bool) : Nat → Reader Nat
  | 0 => fail
  | fuel + 1 => do
    match ← next with
    | some (.alias name) => skip; aliased name
    | _ =>
      let (anchor, tag) ← properties
      let content ← next
      if ← isTaken anchor then fail
      else
        match content with
        | some (.scalar plain text) =>
          skip; add anchor (.scalar (scalarTag tag plain text) text)
        | some .flowSequenceStart =>
          skip; collection anchor (.sequence (tagOr .list tag)) (flowItems true fuel)
        | some .flowMappingStart =>
          skip; collection anchor (.mapping (tagOr .map tag)) (flowEntries true fuel)
        | some .blockEntry =>
          if indentless then
            collection anchor (.sequence (tagOr .list tag)) (indentlessItems fuel)
          else bare anchor tag
        | some .blockSequenceStart =>
          if block then do
            skip; collection anchor (.sequence (tagOr .list tag)) (blockItems fuel)
          else bare anchor tag
        | some .blockMappingStart =>
          if block then do
            skip; collection anchor (.mapping (tagOr .map tag)) (blockEntries fuel)
          else bare anchor tag
        | _ => bare anchor tag
where
  /-- A node with an anchor or a tag and nothing else. -/
  bare (anchor tag : Option String) : Reader Nat :=
    if anchor.isNone && tag.isNone then fail
    else add anchor (.scalar (tagOr (resolve []) tag) [])

/-- The members of a block. -/
def blockItems : Nat → Reader (List Nat)
  | 0 => fail
  | fuel + 1 => do
    match ← next with
    | some .blockEntry =>
      skip
      let item ← if ← nextIs [.blockEntry, .blockEnd] then missing else node true false fuel
      return item :: (← blockItems fuel)
    | some .blockEnd => skip; return []
    | _ => fail

/-- The members at the column of their key. -/
def indentlessItems : Nat → Reader (List Nat)
  | 0 => fail
  | fuel + 1 => do
    match ← next with
    | some .blockEntry =>
      skip
      let item ← if ← nextIs [.blockEntry, .key, .value, .blockEnd] then missing
        else node true false fuel
      return item :: (← indentlessItems fuel)
    | _ => return []

/-- The entries of a block. -/
def blockEntries : Nat → Reader (List (Nat × Nat))
  | 0 => fail
  | fuel + 1 => do
    match ← next with
    | some .key =>
      skip
      let k ← if ← nextIs [.key, .value, .blockEnd] then missing else node true true fuel
      let v ← if ← nextIs [.value] then do
          skip
          if ← nextIs [.key, .value, .blockEnd] then missing else node true true fuel
        else missing
      return (k, v) :: (← blockEntries fuel)
    | some .blockEnd => skip; return []
    | _ => fail

/-- A key in brackets and its value; each may be missing before a comma or the closing bracket. -/
def flowEntry (close : Token) : Nat → Reader (Nat × Nat)
  | 0 => fail
  | fuel + 1 => do
    let k ← if ← nextIs [.value, .flowEntry, close] then missing else node false false fuel
    let v ← if ← nextIs [.value] then do
        skip
        if ← nextIs [.flowEntry, close] then missing else node false false fuel
      else missing
    return (k, v)

/-- The members in brackets; one with a key is a map with one entry. -/
def flowItems (first : Bool) : Nat → Reader (List Nat)
  | 0 => fail
  | fuel + 1 => do
    if ← nextIs [.flowSequenceEnd] then do skip; return []
    else
      if !first then (if ← nextIs [.flowEntry] then skip else fail)
      match ← next with
      | some .flowSequenceEnd => skip; return []
      | some .key =>
        skip
        let item ← collection none (.mapping .map)
          (List.singleton <$> flowEntry .flowSequenceEnd fuel)
        return item :: (← flowItems false fuel)
      | _ =>
        let item ← node false false fuel
        return item :: (← flowItems false fuel)

/-- The entries in braces. -/
def flowEntries (first : Bool) : Nat → Reader (List (Nat × Nat))
  | 0 => fail
  | fuel + 1 => do
    if ← nextIs [.flowMappingEnd] then do skip; return []
    else
      if !first then (if ← nextIs [.flowEntry] then skip else fail)
      match ← next with
      | some .flowMappingEnd => skip; return []
      | some .key =>
        skip
        let entry ← flowEntry .flowMappingEnd fuel
        return entry :: (← flowEntries false fuel)
      | _ =>
        let k ← node false false fuel
        return (k, ← missing) :: (← flowEntries false fuel)

end

/-- The handles that every document has. -/
def defaultHandles : List (String × String) := [("!", "!"), ("!!", tagSpace)]

/-- The directives before a document: at most one version, of which the first number is one, and
each handle once. -/
def directives (versioned : Bool) : Nat → Reader Unit
  | 0 => fail
  | fuel + 1 => do
    match ← next with
    | some (.directive (.version major)) =>
      if versioned || major != 1 then fail
      else do skip; directives true fuel
    | some (.directive (.tag handle target)) =>
      if ((← get).handles.lookup handle).isSome then fail
      else do
        modify fun s => { s with handles := (handle, target) :: s.handles }
        skip
        directives versioned fuel
    | some (.directive .unknown) => skip; directives versioned fuel
    | _ => modify fun s => { s with handles := s.handles ++ defaultHandles }

/-- Skips the marks of the end of a document, behind which the text must end; the directives of a
second document are still read. -/
def ending : Nat → Reader Unit
  | 0 => fail
  | fuel + 1 => do
    match ← next with
    | none => return ()
    | some .documentEnd => skip; ending fuel
    | some _ =>
      modify fun s => { s with handles := [] }
      directives false fuel
      fail

/-- Whether the token begins a document that has directives or a mark. -/
def beginsExplicitly : Token → Bool
  | .directive _ => true
  | .documentStart => true
  | _ => false

/-- The number of the outermost node of the only document, if there is one. -/
def document (fuel : Nat) : Reader (Option Nat) := do
  match ← next with
  | none => return none
  | some t =>
    directives false fuel
    let root ← if beginsExplicitly t then do
        if ← nextIs [.documentStart] then do
          skip
          match ← next with
          | none => missing
          | some t =>
            if beginsExplicitly t || t == .documentEnd then missing else node true false fuel
        else fail
      else node true false fuel
    ending fuel
    return some root

end Draft

/-- The nodes of the only document that the tokens are, if there is one.  Of two steps at least one
takes a token. -/
def Graph.ofTokens? (ts : List Token) : Except DocumentFault (Option Graph) := do
  let (root, draft) ← (Draft.document (2 * ts.length + 2)).run { tokens := ts }
  return root.map fun root => ⟨draft.nodes, root⟩

end StagedLoad.Yaml

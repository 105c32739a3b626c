import StagedLoad.Proofs.Sheet.Lines
import StagedLoad.Yaml.Build

/-!
# Nodes of a sheet

The nodes are numbered in the order in which they begin: the map of the sheet, the name, the map
under it, then key and text of one line after the other.

* `Sheet.ofTokens?_tokens` : the nodes of a sheet.
* `Graph.ofTokens?_broken` : where the tokens break off behind a line, there are no nodes.
-/

namespace StagedLoad.Yaml

/-- The node of a text without a tag. -/
def textNode (cs : List Char) : Node := .scalar (resolve (.ofChars cs)) (.ofChars cs)

namespace Line

/-- The nodes of the line. -/
def nodes (l : Line) : List Node := [textNode l.key, textNode l.text]

/-- The entries of lines whose nodes are numbered from here on. -/
def entries : Nat → List Line → List (Nat × Nat)
  | _, [] => []
  | n, _ :: ls => (n, n + 1) :: entries (n + 2) ls

/-- A line has four tokens. -/
theorem length_tokens (ls : List Line) : (ls.flatMap Line.tokens).length = 4 * ls.length := by
  induction ls with
  | nil => rfl
  | cons l ls ih =>
    rw [List.flatMap_cons, List.length_append, ih, List.length_cons]
    show 4 + 4 * ls.length = _
    omega

theorem length_nodes (ls : List Line) : (ls.flatMap Line.nodes).length = 2 * ls.length := by
  induction ls with
  | nil => rfl
  | cons l ls ih =>
    rw [List.flatMap_cons, List.length_append, ih, List.length_cons]
    show 2 + 2 * ls.length = _
    omega

end Line

namespace Draft

/-- What is to be read, with the nodes before it and so many lists and maps around it. -/
def reading (ts : List Token) (xs : List Node) (depth : Nat) : Draft :=
  { tokens := ts, nodes := xs.toArray, handles := defaultHandles, depth }

section

variable {t : Token} {ts : List Token} {xs : List Node} {depth : Nat}

/-- The next token is looked at. -/
theorem next_reading (t : Token) (ht : ∀ f, t ≠ .broken f) :
    next (reading (t :: ts) xs depth) = .ok (some t, reading (t :: ts) xs depth) := by
  unfold next reading
  cases t with
  | broken f => exact absurd rfl (ht f)
  | _ => rfl

theorem nextIs_reading (t : Token) (ht : ∀ f, t ≠ .broken f) (expected : List Token) :
    nextIs expected (reading (t :: ts) xs depth) =
      .ok (expected.contains t, reading (t :: ts) xs depth) := by
  unfold nextIs
  rw [bind_ok (next_reading t ht)]
  rfl

theorem skip_reading (t : Token) :
    skip (reading (t :: ts) xs depth) = .ok ((), reading ts xs depth) := rfl

/-- A node without an anchor and a tag has no properties. -/
theorem properties_reading (t : Token) (ht : ∀ f, t ≠ .broken f)
    (hanchor : ∀ name, t ≠ .anchor name) (htag : ∀ handle suffix, t ≠ .tag handle suffix) :
    properties (reading (t :: ts) xs depth) = .ok ((none, none), reading (t :: ts) xs depth) := by
  unfold properties
  cases t with
  | broken f => exact absurd rfl (ht f)
  | anchor name => exact absurd rfl (hanchor name)
  | tag handle suffix => exact absurd rfl (htag handle suffix)
  | _ => rfl

theorem isTaken_none (s : Draft) : isTaken none s = .ok (false, s) := rfl

/-- The token of a plain scalar is the node of its text. -/
theorem node_scalar (block indentless : Bool) (fuel : Nat) (cs : List Char) :
    node block indentless (fuel + 1) (reading (.scalar true (.ofChars cs) :: ts) xs depth) =
      .ok (xs.length, reading ts (xs ++ [textNode cs]) depth) := by
  rw [node, bind_ok (next_reading (.scalar true (.ofChars cs)) nofun)]
  dsimp only
  rw [bind_ok (properties_reading (.scalar true (.ofChars cs)) nofun nofun nofun)]
  dsimp only
  rw [bind_ok (next_reading (.scalar true (.ofChars cs)) nofun), bind_ok (isTaken_none _)]
  simp only [Bool.false_eq_true, if_false]
  rw [bind_ok (skip_reading (.scalar true (.ofChars cs)))]
  simp [add, reading, scalarTag, tagOr, textNode]

/-- An entry of a block whose value is there. -/
theorem blockEntries_entry (fuel : Nat) (key : List Char) (t : Token)
    (hpresent : [.key, .value, .blockEnd].contains t = false) (ht : ∀ f, t ≠ .broken f) :
    blockEntries (fuel + 2)
        (reading (.key :: .scalar true (.ofChars key) :: .value :: t :: ts) xs depth) =
      (node true true (fuel + 1) (reading (t :: ts) (xs ++ [textNode key]) depth)).bind fun v =>
        (blockEntries (fuel + 1) v.2).map fun r => ((xs.length, v.1) :: r.1, r.2) := by
  rw [blockEntries, bind_ok (next_reading .key nofun)]
  dsimp only
  rw [bind_ok (skip_reading .key), bind_ok (nextIs_reading (.scalar true (.ofChars key)) nofun _),
    if_neg (by simp), bind_ok (node_scalar true true fuel key),
    bind_ok (nextIs_reading .value nofun _), if_pos (by decide), bind_ok (skip_reading .value),
    bind_ok (nextIs_reading t ht _), if_neg (by simpa using hpresent)]
  rfl

/-- The end of a block ends its entries. -/
theorem blockEntries_end (fuel : Nat) :
    blockEntries (fuel + 1) (reading (.blockEnd :: ts) xs depth) =
      .ok ([], reading ts xs depth) := by
  rw [blockEntries, bind_ok (next_reading .blockEnd nofun)]
  rfl

/-- Where the tokens break off there are no entries. -/
theorem blockEntries_broken (fuel : Nat) (f : DocumentFault) :
    blockEntries (fuel + 1) (reading (.broken f :: ts) xs depth) = .error f := by
  rw [blockEntries, bind_error (next_broken rfl)]

/-- **The entries of lines come before all others**, by induction on the lines. -/
theorem blockEntries_lines (fuel : Nat) (ls : List Line) :
    blockEntries (fuel + 1 + ls.length) (reading (ls.flatMap Line.tokens ++ ts) xs depth) =
      (blockEntries (fuel + 1) (reading ts (xs ++ ls.flatMap Line.nodes) depth)).map
        fun r => (Line.entries xs.length ls ++ r.1, r.2) := by
  induction ls generalizing xs with
  | nil =>
    rw [List.flatMap_nil, List.flatMap_nil, List.append_nil, List.nil_append]
    exact (congrFun Except.map_id _).symm
  | cons l ls ih =>
    have hfuel : fuel + 1 + (l :: ls).length = fuel + ls.length + 2 := by
      rw [List.length_cons]
      omega
    have hfuel' : fuel + ls.length + 1 = fuel + 1 + ls.length := by omega
    have hline : (l :: ls).flatMap Line.tokens ++ ts = .key :: .scalar true (.ofChars l.key) ::
        .value :: .scalar true (.ofChars l.text) :: (ls.flatMap Line.tokens ++ ts) := rfl
    have hnodes : xs ++ [textNode l.key] ++ [textNode l.text] = xs ++ l.nodes :=
      List.append_assoc _ _ _
    have hall : xs ++ l.nodes ++ ls.flatMap Line.nodes = xs ++ (l :: ls).flatMap Line.nodes :=
      List.append_assoc _ _ _
    have hlength : (xs ++ l.nodes).length = xs.length + 2 := List.length_append
    rw [hfuel, hline, blockEntries_entry _ l.key (.scalar true (.ofChars l.text)) (by simp) nofun,
      node_scalar, Except.bind, hnodes, hfuel', ih, hall, hlength, List.length_append]
    cases blockEntries (fuel + 1) (reading ts (xs ++ (l :: ls).flatMap Line.nodes) depth) <;> rfl

/-- A block is a map with the entries in it. -/
theorem node_block (indentless : Bool) (fuel : Nat) (hdepth : depth < nestingLimit) :
    node true indentless (fuel + 1) (reading (.blockMappingStart :: ts) xs depth) =
      (blockEntries fuel (reading ts (xs ++ [.mapping .map []]) (depth + 1))).map fun r =>
        (xs.length, { r.2 with
          nodes := r.2.nodes.setIfInBounds xs.length (.mapping .map r.1)
          depth := r.2.depth - 1 }) := by
  rw [node, bind_ok (next_reading .blockMappingStart nofun)]
  dsimp only
  rw [bind_ok (properties_reading .blockMappingStart nofun nofun nofun)]
  dsimp only
  rw [bind_ok (next_reading .blockMappingStart nofun), bind_ok (isTaken_none _)]
  simp only [Bool.false_eq_true, if_false, if_true]
  have hget : (get : Reader Draft) (reading ts xs depth) =
      .ok (reading ts xs depth, reading ts xs depth) := rfl
  have hadd : add none (.mapping (tagOr .map none) []) (reading ts xs depth) =
      .ok (xs.length, reading ts (xs ++ [.mapping .map []]) depth) := by
    simp [add, reading, tagOr]
  have hshallow : ¬ nestingLimit ≤ (reading ts xs depth).depth := Nat.not_le.mpr hdepth
  have hdeeper : (modify fun d => { d with depth := d.depth + 1 } : Reader Unit)
      (reading ts (xs ++ [.mapping .map []]) depth) =
      .ok ((), reading ts (xs ++ [.mapping .map []]) (depth + 1)) := rfl
  rw [bind_ok (skip_reading .blockMappingStart), collection, bind_ok hget,
    if_neg hshallow]
  dsimp only
  rw [bind_ok hadd, bind_ok hdeeper]
  cases hread : blockEntries fuel (reading ts (xs ++ [.mapping .map []]) (depth + 1)) with
  | error f => rw [bind_error hread]; rfl
  | ok r => rw [bind_ok hread]; rfl

/-- A document that is a block. -/
theorem document_block (fuel : Nat) :
    document (fuel + 1) { tokens := .blockMappingStart :: ts } =
      (node true false (fuel + 1) (reading (.blockMappingStart :: ts) [] 0)).bind fun r =>
        (ending (fuel + 1) r.2).map fun e => (some r.1, e.2) := by
  have hnext : next { tokens := .blockMappingStart :: ts } =
      .ok (some .blockMappingStart, { tokens := .blockMappingStart :: ts }) := rfl
  have hdirectives : directives false (fuel + 1) { tokens := .blockMappingStart :: ts } =
      .ok ((), reading (.blockMappingStart :: ts) [] 0) := by
    rw [directives, bind_ok hnext]
    rfl
  rw [document, bind_ok hnext]
  dsimp only
  rw [bind_ok hdirectives, if_neg (by decide)]
  rfl

/-- A block of lines is a map. -/
theorem node_lines (indentless : Bool) (fuel : Nat) (ls : List Line)
    (hdepth : depth < nestingLimit) :
    node true indentless (fuel + 1 + ls.length + 1) (reading
        (.blockMappingStart :: (ls.flatMap Line.tokens ++ .blockEnd :: ts)) xs depth) =
      .ok (xs.length, reading ts (xs ++
        .mapping .map (Line.entries (xs.length + 1) ls) :: ls.flatMap Line.nodes) depth) := by
  have hlength : (xs ++ [Node.mapping .map []]).length = xs.length + 1 := List.length_append
  rw [node_block indentless _ hdepth, blockEntries_lines, blockEntries_end, hlength]
  simp [Except.map, reading]

/-- Where the tokens break off, a block is not read to its end. -/
theorem node_lines_broken (indentless : Bool) (fuel : Nat) (ls : List Line) (f : DocumentFault)
    (hdepth : depth < nestingLimit) :
    node true indentless (fuel + 1 + ls.length + 1) (reading
        (.blockMappingStart :: (ls.flatMap Line.tokens ++ .broken f :: ts)) xs depth) =
      .error f := by
  rw [node_block indentless _ hdepth, blockEntries_lines, blockEntries_broken]
  rfl

end

end Draft

namespace Sheet

/-- The nodes of a sheet by their numbers. -/
def nodes (d : Sheet) : List Node :=
  .mapping .map ((1, 2) :: Line.entries (3 + 2 * (d.more.length + 1)) d.others) ::
    textNode d.name :: .mapping .map (Line.entries 3 (d.first :: d.more)) ::
      ((d.first :: d.more).flatMap Line.nodes ++ d.others.flatMap Line.nodes)

/-- **The nodes of a sheet.** -/
theorem ofTokens?_tokens (d : Sheet) :
    Graph.ofTokens? d.tokens = .ok (some ⟨d.nodes.toArray, 0⟩) := by
  let under := d.first :: d.more
  let behind : List Token := d.others.flatMap Line.tokens ++ [.blockEnd]
  let named : List Node := [.mapping .map [], textNode d.name]
  let read : List Node := named ++ .mapping .map (Line.entries 3 under) :: under.flatMap Line.nodes
  have htokens : d.tokens = .blockMappingStart :: .key :: .scalar true (.ofChars d.name) ::
      .value :: .blockMappingStart :: (under.flatMap Line.tokens ++ .blockEnd :: behind) := by
    simp [tokens, Scan.namedTokens, under, behind]
  -- the steps that are left for the lines
  have hlength : d.tokens.length = 7 + 4 * under.length + 4 * d.others.length := by
    simp only [htokens, behind, List.length_cons, List.length_append, Line.length_tokens,
      List.length_nil]
    omega
  obtain ⟨fuel, hfuel⟩ : ∃ fuel, 2 * d.tokens.length + 2 = fuel + 3 := ⟨_, rfl⟩
  obtain ⟨p, hp⟩ : ∃ p, fuel + 1 = p + 1 + under.length + 1 := ⟨fuel - 1 - under.length, by omega⟩
  obtain ⟨q, hq⟩ : ∃ q, fuel + 1 = q + 1 + d.others.length := ⟨fuel - d.others.length, by omega⟩
  have hunder : Draft.node true true (fuel + 1) (Draft.reading
      (.blockMappingStart :: (under.flatMap Line.tokens ++ .blockEnd :: behind)) named 1) =
      .ok (2, Draft.reading behind read 1) := by
    rw [hp]
    exact Draft.node_lines true p under (by decide)
  have hread : read.length = 3 + 2 * under.length := by
    simp only [read, named, List.length_append, List.length_cons, List.length_nil,
      Line.length_nodes]
    omega
  have hroot : Draft.node true false (fuel + 3) (Draft.reading d.tokens [] 0) =
      .ok (0, Draft.reading [] d.nodes 0) := by
    rw [htokens, Draft.node_block false _ (by decide), List.nil_append,
      Draft.blockEntries_entry _ d.name .blockMappingStart (by simp) (by simp)]
    rw [show [.mapping .map []] ++ [textNode d.name] = named from rfl, hunder, Except.bind, hq,
      Draft.blockEntries_lines, Draft.blockEntries_end, hread]
    simp [Except.map, Draft.reading, nodes, read, named, under]
  have hending : Draft.ending (fuel + 3) (Draft.reading [] d.nodes 0) =
      .ok ((), Draft.reading [] d.nodes 0) := rfl
  have hdocument : (Draft.document (fuel + 3)).run { tokens := d.tokens } =
      .ok (some 0, Draft.reading [] d.nodes 0) := by
    rw [htokens] at hroot ⊢
    show Draft.document (fuel + 3) _ = _
    rw [Draft.document_block, hroot, Except.bind, hending]
    rfl
  rw [Graph.ofTokens?, hfuel, hdocument]
  rfl

end Sheet

/-- **Where the tokens break off behind a line, there are no nodes.** -/
theorem Graph.ofTokens?_broken (name : List Char) (ls : List Line) (f : DocumentFault) :
    Graph.ofTokens? (Scan.namedTokens name ls ++ [.broken f]) = .error f := by
  let ts : List Token := .key :: .scalar true (.ofChars name) :: .value :: .blockMappingStart ::
    (ls.flatMap Line.tokens ++ [.broken f])
  have htokens : Scan.namedTokens name ls ++ [.broken f] = .blockMappingStart :: ts := by
    simp [Scan.namedTokens, ts]
  obtain ⟨fuel, hfuel⟩ : ∃ fuel, 2 * (Token.blockMappingStart :: ts).length + 2 =
      fuel + 1 + ls.length + 1 + 2 := by
    refine ⟨10 + 7 * ls.length, ?_⟩
    simp only [ts, List.length_cons, List.length_append, Line.length_tokens, List.length_nil]
    omega
  have hunder : Draft.node true true (fuel + 1 + ls.length + 1) (Draft.reading
      (.blockMappingStart :: (ls.flatMap Line.tokens ++ [.broken f]))
      [.mapping .map [], textNode name] 1) = .error f :=
    Draft.node_lines_broken true fuel ls f (by decide)
  have hroot : Draft.node true false (fuel + 1 + ls.length + 1 + 2)
      (Draft.reading (.blockMappingStart :: ts) [] 0) = .error f := by
    rw [Draft.node_block false _ (by decide), List.nil_append,
      Draft.blockEntries_entry _ name .blockMappingStart (by simp) (by simp)]
    rw [List.singleton_append, hunder]
    rfl
  rw [htokens, Graph.ofTokens?, hfuel]
  show Except.bind (Draft.document _ _) _ = _
  rw [Draft.document_block, hroot]
  rfl

end StagedLoad.Yaml

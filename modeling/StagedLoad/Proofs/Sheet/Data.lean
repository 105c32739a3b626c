import StagedLoad.Proofs.DistinctKeys
import StagedLoad.Proofs.Sheet.Nodes
import StagedLoad.Settings.Check

/-!
# Data of a sheet

The values of the lines are made in the order in which the lines are numbered, those beside the name
before those under it.  A text whose form is that of another type has the value of that type, and if
there is no such value, the sheet has none.

* `eq_of_plainValue` : a plain scalar is read as no other text.
* `Sheet.value_graph` : the data of a sheet.
* `Document.parse_written`, `Document.parse_stopped` : a sheet as a document.
-/

namespace StagedLoad

namespace Yaml

/-- The value of a plain scalar whose node has the number. -/
def plainValue (document n : Nat) (cs : List Char) : Except DocumentFault Value :=
  scalarValue (resolve (.ofChars cs)) (Build.serial document n) (.ofChars cs)

/-- A plain scalar with the form of no other type is a text. -/
theorem plainValue_of_text {cs : List Char} (h : resolve (.ofChars cs) = .text) (document n : Nat) :
    plainValue document n cs = .ok (.text (.ofChars cs)) := by
  rw [plainValue, h]
  rfl

theorem plainValue_congr {cs cs' : List Char} (h : textNode cs = textNode cs') (document n : Nat) :
    plainValue document n cs = plainValue document n cs' := by
  have htext : Text.ofChars cs = Text.ofChars cs' := (Node.scalar.inj h).2
  rw [plainValue, plainValue, htext]

/-- No plain scalar stands for a list or a map, or for bytes. -/
theorem resolve_cases (t : Text) : (resolve t).kind ≠ .collection ∧ resolve t ≠ .binary := by
  have hforms : ∀ form ∈ forms, form.2.kind ≠ .collection ∧ form.2 ≠ .binary := by
    simp [forms, Tag.kind]
  unfold resolve impliedTag
  split
  · next form tag hfind => exact hforms _ (List.mem_of_find?_eq_some hfind)
  · decide

/-- A plain scalar is read as a text only if it is that text. -/
theorem eq_of_plainValue {document n : Nat} {cs : List Char} {v : Value} {t : Text}
    (h : plainValue document n cs = .ok v) (hv : checkText v = .ok t) :
    resolve (.ofChars cs) = .text ∧ t = .ofChars cs := by
  have htagged := Build.isTagged_of_scalarValue h
  have hbinary := (resolve_cases (.ofChars cs)).2
  cases v with
  | text t' =>
    cases hv
    cases htag : resolve (.ofChars cs) with
    | text =>
      rw [plainValue_of_text htag] at h
      cases h
      exact ⟨rfl, rfl⟩
    | _ =>
      rw [htag] at htagged
      cases htagged
  | bytes bs =>
    cases htag : resolve (.ofChars cs) with
    | binary => exact absurd htag hbinary
    | _ =>
      rw [htag] at htagged
      cases htagged
  | _ => cases hv

/-- A tag that no scalar can have leaves a scalar without a value. -/
theorem scalarValue_of_kind_none {tag : Tag} (h : tag.kind = .none) (n : Nat) (t : Text) :
    scalarValue tag n t = .error .malformed := by
  cases tag with
  | merge | value | other => rfl
  | _ => cases h

namespace Line

/-- The entries of lines whose nodes are numbered from here on. -/
def data (document : Nat) : Nat → List Line → Except DocumentFault Entries
  | _, [] => .ok []
  | n, l :: ls => do
    let v ← plainValue document (n + 1) l.text
    let es ← data document (n + 2) ls
    return (.text (.ofChars l.key), v) :: es

/-- The data of lines have the keys of the lines, and scalars under them. -/
theorem mem_data {document n : Nat} {ls : List Line} {es : Entries}
    (h : data document n ls = .ok es) :
    es.keys = (ls.map Line.key).map (fun key => .text (.ofChars key)) ∧
      ∀ e ∈ es, Cell.isScalar e.2 = true := by
  induction ls generalizing n es with
  | nil =>
    cases h
    exact ⟨rfl, nofun⟩
  | cons l ls ih =>
    rw [data] at h
    cases hvalue : plainValue document (n + 1) l.text with
    | error f =>
      rw [hvalue] at h
      cases h
    | ok v =>
      cases hdata : data document (n + 2) ls with
      | error f =>
        rw [hvalue, hdata] at h
        cases h
      | ok es' =>
        rw [hvalue, hdata] at h
        cases h
        obtain ⟨hkeys, hscalars⟩ := ih hdata
        refine ⟨congrArg _ hkeys, List.forall_mem_cons.mpr ⟨?_, hscalars⟩⟩
        exact Build.isScalar_of_scalarValue hvalue

/-- Entries with different texts as keys have different keys. -/
theorem areApart_of_nodup {keys : List (List Char)} {es : Entries} (hdistinct : keys.Nodup)
    (hes : es.keys = keys.map fun key => .text (.ofChars key)) : es.AreApart := by
  have hkeys : es.keys.Pairwise fun k k' => k.same k' = false := by
    rw [hes, List.pairwise_map]
    refine hdistinct.imp fun {key key'} hne => ?_
    rw [← Bool.not_eq_true, Value.same_text_iff]
    intro htext
    exact hne (Text.ofChars_inj (Value.text.inj htext))
  exact List.pairwise_map.mp hkeys

/-- The nodes of lines have the numbers from here on. -/
def AreAt (nodes : Array Node) : Nat → List Line → Prop
  | _, [] => True
  | n, l :: ls => nodes[n]? = some (textNode l.key) ∧ nodes[n + 1]? = some (textNode l.text) ∧
      AreAt nodes (n + 2) ls

/-- Lines have their numbers whatever nodes are before and behind them. -/
theorem areAt_of_append (xs : List Node) (ls : List Line) (ys : List Node) :
    AreAt (xs ++ (ls.flatMap Line.nodes ++ ys)).toArray xs.length ls := by
  induction ls generalizing xs with
  | nil => trivial
  | cons l ls ih =>
    have hlength : (xs ++ l.nodes).length = xs.length + 2 := List.length_append
    have hrest := ih (xs ++ l.nodes)
    rw [hlength] at hrest
    refine ⟨?_, ?_, ?_⟩
    · simp [Line.nodes]
    · simp [Line.nodes]
    · simpa using hrest

/-- Every entry of lines has the key of a line. -/
theorem mem_entries {nodes : Array Node} {n : Nat} {ls : List Line} {e : Nat × Nat}
    (hls : AreAt nodes n ls) (he : e ∈ entries n ls) :
    ∃ l ∈ ls, nodes[e.1]? = some (textNode l.key) := by
  induction ls generalizing n with
  | nil => cases he
  | cons l ls ih =>
    obtain ⟨hkey, _, hls⟩ := hls
    rcases List.mem_cons.mp he with rfl | he
    · exact ⟨l, List.mem_cons_self, hkey⟩
    · obtain ⟨l', hl', hkey'⟩ := ih hls he
      exact ⟨l', List.mem_cons_of_mem l hl', hkey'⟩

end Line

/-! ## Merge keys -/

namespace Nodes

variable {nodes : Array Node} {n : Nat} {tag : Tag} {es : List (Nat × Nat)}

/-- The entries of a map are those of its node. -/
theorem entriesAt_eq (hn : nodes[n]? = some (.mapping tag es)) :
    entriesAt n nodes = .ok (es, nodes) := by
  have hget : (get : Nodes (Array Node)) nodes = .ok (nodes, nodes) := rfl
  rw [entriesAt, bind_ok hget, hn]
  rfl

/-- Without value keys no key is changed. -/
theorem plainKeys_eq (hn : nodes[n]? = some (.mapping tag es))
    (hkeys : ∀ e ∈ es, hasTag nodes .value e.1 = false) : plainKeys n nodes = .ok ((), nodes) := by
  have hget : (get : Nodes (Array Node)) nodes = .ok (nodes, nodes) := rfl
  rw [plainKeys, bind_ok (entriesAt_eq hn)]
  refine (bind_ok (?_ : _ = Except.ok (PUnit.unit, nodes))).trans rfl
  clear hn
  induction es with
  | nil => rfl
  | cons e es ih =>
    obtain ⟨hkey, hkeys⟩ := List.forall_mem_cons.mp hkeys
    rw [List.forIn_cons]
    refine (bind_ok (?_ : _ = Except.ok (ForInStep.yield PUnit.unit, nodes))).trans (ih hkeys)
    dsimp only
    rw [bind_ok hget, hkey]
    rfl

/-- A map without merge keys and value keys stays as it is. -/
theorem takeIn_eq (fuel : Nat) (hn : nodes[n]? = some (.mapping tag es))
    (hmerge : ∀ e ∈ es, hasTag nodes .merge e.1 = false)
    (hvalue : ∀ e ∈ es, hasTag nodes .value e.1 = false) :
    takeIn (fuel + 1) n nodes = .ok ((), nodes) := by
  have hpop : popMergeKey n nodes = .ok (none, nodes) := popMergeKey_eq_none hn hmerge
  rw [takeIn, bind_ok hpop]
  exact plainKeys_eq hn hvalue

end Nodes

/-! ## Making of values -/

namespace Build

variable {b : Build} {α β : Type}

/-- What was made of plain scalars are their values. -/
def Agrees (b : Build) : Prop :=
  ∀ n cs v, b.nodes[n]? = some (textNode cs) → (b.made[n]?).join = some v →
    plainValue b.document n cs = .ok v

/-- What was made goes on to agree when the value of a scalar is recorded. -/
theorem Agrees.record (h : b.Agrees) {n : Nat} {v : Value}
    (hv : ∀ cs, b.nodes[n]? = some (textNode cs) → plainValue b.document n cs = .ok v) :
    Agrees { b with made := b.made.setIfInBounds n (some v) } := by
  intro m cs v' hnode hmade
  dsimp only at hnode hmade
  rw [Array.getElem?_setIfInBounds] at hmade
  by_cases hm : n = m
  · subst hm
    rw [if_pos rfl] at hmade
    have hsame : v = v' := by
      split at hmade <;> cases hmade
      rfl
    exact hsame ▸ hv cs hnode
  · rw [if_neg hm] at hmade
    exact h m cs v' hnode hmade

/-- Making comes to the result, and does nothing else than to make scalars. -/
def Gives (m : Builder α) (b : Build) : Except DocumentFault α → Prop
  | .error f => m b = .error f
  | .ok a => ∃ made, m b = .ok (a, { b with made }) ∧ Agrees { b with made }

theorem Gives.pure (h : b.Agrees) (a : α) : Gives (Pure.pure a) b (.ok a) := ⟨b.made, rfl, h⟩

/-- Making in sequence comes to a sequence of results. -/
theorem Gives.bind {m : Builder α} {k : α → Builder β} {r : Except DocumentFault α}
    {q : α → Except DocumentFault β} (hm : Gives m b r)
    (hk : ∀ a made, r = .ok a → Agrees { b with made } → Gives (k a) { b with made } (q a)) :
    Gives (m >>= k) b (r >>= q) := by
  cases r with
  | error f => exact bind_error hm
  | ok a =>
    obtain ⟨made, hm, hmade⟩ := hm
    have hk := hk a made rfl hmade
    show Gives (m >>= k) b (q a)
    cases hq : q a with
    | error f =>
      rw [hq] at hk
      exact (bind_ok hm).trans hk
    | ok c =>
      rw [hq] at hk
      obtain ⟨made', hk, hmade'⟩ := hk
      exact ⟨made', (bind_ok hm).trans hk, hmade'⟩

/-- A plain scalar denotes its value. -/
theorem scalar_textNode {nodes : Array Node} {n : Nat} {cs : List Char}
    (hnode : nodes[n]? = some (textNode cs)) (document : Nat) :
    scalar nodes document n (textNode cs) = plainValue document n cs := by
  have htext : scalarText nodes (nodes.size + 1) n = .ok (.ofChars cs) := by
    rw [scalarText, hnode]
    rfl
  rw [scalar, htext, textNode, plainValue]
  cases resolve (.ofChars cs) <;> rfl

/-- A plain scalar that has not been made yet is made and recorded. -/
theorem make_new {n : Nat} {cs : List Char} (hnode : b.nodes[n]? = some (textNode cs))
    (hmade : (b.made[n]?).join = none) :
    make n b = (plainValue b.document n cs).map fun v =>
      (v, { b with made := b.made.setIfInBounds n (some v) }) := by
  have hget : (get : Builder Build) b = .ok (b, b) := rfl
  rw [make, bind_ok hget, hmade]
  dsimp only
  rw [hnode, Option.getD_some]
  cases hkind : (textNode cs).tag.kind with
  | collection => exact absurd hkind (resolve_cases _).1
  | none =>
    have hvalue : plainValue b.document n cs = .error .malformed :=
      scalarValue_of_kind_none hkind _ _
    rw [hvalue]
    rfl
  | scalar =>
    dsimp only
    rw [scalar_textNode hnode]
    cases plainValue b.document n cs <;> rfl

/-- A plain scalar is made, now or earlier. -/
theorem make_text (h : b.Agrees) {n : Nat} {cs : List Char}
    (hnode : b.nodes[n]? = some (textNode cs)) : Gives (make n) b (plainValue b.document n cs) := by
  cases hmade : (b.made[n]?).join with
  | some v =>
    rw [h n cs v hnode hmade]
    exact ⟨b.made, make_of_made hmade, h⟩
  | none =>
    have hnew := make_new hnode hmade
    cases hvalue : plainValue b.document n cs with
    | error f =>
      rw [hvalue] at hnew
      exact hnew
    | ok v =>
      rw [hvalue] at hnew
      refine ⟨_, hnew, h.record fun cs' hnode' => ?_⟩
      rw [← hvalue, plainValue_congr (Option.some.inj (hnode'.symm.trans hnode))]

/-- A key is a text. -/
theorem makeKey_text (h : b.Agrees) {n : Nat} {cs : List Char}
    (hnode : b.nodes[n]? = some (textNode cs)) (htext : resolve (.ofChars cs) = .text) :
    Gives (makeKey n) b (.ok (.text (.ofChars cs))) := by
  have hmake := make_text h hnode
  rw [plainValue_of_text htext] at hmake
  exact hmake.bind fun a made ha hmade => by
    cases ha
    exact .pure hmade _

/-- The entries of a map, which are put under each other. -/
def putEntry (es : Entries) (e : Nat × Nat) : Builder Entries := do
  let k ← makeKey e.1
  let v ← make e.2
  return Entries.put k v es

/-- Where all keys are texts, there are no merge keys, and the entries are put one by one. -/
theorem mapEntries_eq {n : Nat} {tag : Tag} {es : List (Nat × Nat)}
    (hn : b.nodes[n]? = some (.mapping tag es))
    (hkeys : ∀ e ∈ es, ∃ cs, b.nodes[e.1]? = some (textNode cs) ∧ resolve (.ofChars cs) = .text) :
    mapEntries n b = es.foldlM putEntry [] b := by
  have hget : (get : Builder Build) b = .ok (b, b) := rfl
  have htag (tag : Tag) (htag : tag ≠ .text) : ∀ e ∈ es, Nodes.hasTag b.nodes tag e.1 = false := by
    intro e he
    obtain ⟨cs, hnode, htext⟩ := hkeys e he
    simp [Nodes.hasTag, hnode, textNode, Node.tag, htext, Ne.symm htag]
  have htaken : (liftM ((Nodes.takeIn (Nodes.entryCount b.nodes + 2) n).run b.nodes) :
      Builder _) b = .ok (((), b.nodes), b) := by
    rw [StateT.run, Nodes.takeIn_eq _ hn (htag .merge (by decide)) (htag .value (by decide))]
    rfl
  have hset : (modify fun b' => { b' with nodes := b.nodes } : Builder Unit) b = .ok ((), b) := rfl
  have hentries : (liftM ((Nodes.entriesAt n).run b.nodes) : Builder _) b =
      .ok ((es, b.nodes), b) := by
    rw [StateT.run, Nodes.entriesAt_eq hn]
    rfl
  rw [mapEntries, bind_ok hget, bind_ok htaken]
  dsimp only
  rw [bind_ok hset, bind_ok hentries]
  rfl

/-- The values of lines are made one after the other. -/
theorem gives_lines (h : b.Agrees) {n : Nat} {ls : List Line} (hls : Line.AreAt b.nodes n ls)
    (hkeys : ∀ l ∈ ls, resolve (.ofChars l.key) = .text) (es : Entries) :
    Gives ((Line.entries n ls).foldlM putEntry es) b
      ((Line.data b.document n ls).map fun new =>
        new.foldl (fun es e => Entries.put e.1 e.2 es) es) := by
  induction ls generalizing n es b with
  | nil => exact .pure h es
  | cons l ls ih =>
    obtain ⟨hkey, htext, hls⟩ := hls
    obtain ⟨hl, hkeys⟩ := List.forall_mem_cons.mp hkeys
    have hentry : Gives (putEntry es (n, n + 1)) b
        (plainValue b.document (n + 1) l.text >>= fun v =>
          .ok (Entries.put (.text (.ofChars l.key)) v es)) := by
      refine Gives.bind (q := fun k => plainValue b.document (n + 1) l.text >>= fun v =>
        .ok (Entries.put k v es)) (makeKey_text h hkey hl) ?_
      intro k made _ hmade
      exact (make_text hmade htext).bind fun v made' _ hmade' => .pure hmade' _
    let rest (es' : Entries) : Except DocumentFault Entries :=
      (Line.data b.document (n + 2) ls).map fun new =>
        new.foldl (fun es e => Entries.put e.1 e.2 es) es'
    have hrest : ∀ es' made, Agrees { b with made } →
        Gives ((Line.entries (n + 2) ls).foldlM putEntry es') { b with made } (rest es') :=
      fun es' made hmade => ih hmade hls hkeys es'
    have hall := Gives.bind (q := rest) hentry fun es' made _ hmade => hrest es' made hmade
    have hdata : ((Line.data b.document n (l :: ls)).map fun new =>
        new.foldl (fun es e => Entries.put e.1 e.2 es) es) =
          plainValue b.document (n + 1) l.text >>= fun v =>
            rest (Entries.put (.text (.ofChars l.key)) v es) := by
      rw [Line.data]
      cases plainValue b.document (n + 1) l.text with
      | error f => rfl
      | ok v => cases hrest : Line.data b.document (n + 2) ls <;> simp [rest, hrest] <;> rfl
    rw [Line.entries, List.foldlM_cons, hdata]
    cases hvalue : plainValue b.document (n + 1) l.text with
    | error f =>
      rw [hvalue] at hall
      exact hall
    | ok v =>
      rw [hvalue] at hall
      exact hall

/-- **The data of lines are put behind what is there**, by induction on the lines. -/
theorem foldlM_lines {n : Nat} {ls : List Line} {es new : Entries} (h : b.Agrees)
    (hls : Line.AreAt b.nodes n ls) (hkeys : ∀ l ∈ ls, resolve (.ofChars l.key) = .text)
    (hnew : Line.data b.document n ls = .ok new)
    (hdistinct : Entries.AreApart (es ++ new)) :
    ∃ made, (Line.entries n ls).foldlM putEntry es b = .ok (es ++ new, { b with made }) ∧
      Agrees { b with made } := by
  have hgiven := gives_lines h hls hkeys es
  rw [hnew] at hgiven
  obtain ⟨made, hmade, hagrees⟩ := hgiven
  rw [← Entries.foldl_put hdistinct]
  exact ⟨made, hmade, hagrees⟩

/-- A line without a value fails the making of all lines. -/
theorem foldlM_lines_of_error {n : Nat} {ls : List Line} {f : DocumentFault} (h : b.Agrees)
    (hls : Line.AreAt b.nodes n ls) (hkeys : ∀ l ∈ ls, resolve (.ofChars l.key) = .text)
    (hfault : Line.data b.document n ls = .error f) (es : Entries) :
    (Line.entries n ls).foldlM putEntry es b = .error f := by
  have hgiven := gives_lines h hls hkeys es
  rw [hfault] at hgiven
  exact hgiven

/-- A map begins as an empty cell. -/
theorem make_map {n : Nat} {es : List (Nat × Nat)} (hnode : b.nodes[n]? = some (.mapping .map es))
    (hmade : (b.made[n]?).join = none) :
    make n b = .ok (.knot [] b.cells.size, { b with
      made := b.made.setIfInBounds n (some (.knot [] b.cells.size))
      cells := b.cells.push (.list [])
      later := (b.cells.size, n) :: b.later }) := by
  have hget : (get : Builder Build) b = .ok (b, b) := rfl
  rw [make, bind_ok hget, hmade]
  dsimp only
  rw [hnode]
  rfl

/-- The cell of a map is filled with its entries. -/
theorem fill_map {cell n : Nat} {es : List (Nat × Nat)}
    (hnode : b.nodes[n]? = some (.mapping .map es)) :
    fill cell n b = (mapEntries n b).map fun r =>
      ((), { r.2 with cells := r.2.cells.setIfInBounds cell (.map r.1) }) := by
  have hget : (get : Builder Build) b = .ok (b, b) := rfl
  rw [fill, bind_ok hget, hnode, Option.getD_some]
  show Except.bind (Except.bind (mapEntries n b) _) _ = _
  cases mapEntries n b <;> rfl

/-- One cell that is left is filled, and then those that it left. -/
theorem fillAll_one {cell n : Nat} (fuel : Nat) (hlater : b.later = [(cell, n)]) :
    fillAll (fuel + 1) b = (fill cell n { b with later := [] }).bind fun r => fillAll fuel r.2 := by
  have hget : (get : Builder Build) b = .ok (b, b) := rfl
  have hmodify : (modify fun b => { b with later := [] } : Builder Unit) b =
      .ok ((), { b with later := [] }) := rfl
  rw [fillAll, bind_ok hget, hlater, if_neg (by simp)]
  show (modify _ >>= _ : Builder Unit) b = _
  rw [bind_ok hmodify]
  show Except.bind (Except.bind (fill cell n { b with later := [] }) _) _ = _
  cases fill cell n { b with later := [] } <;> rfl

theorem fillAll_nil (fuel : Nat) (hlater : b.later = []) : fillAll fuel b = .ok ((), b) := by
  have hget : (get : Builder Build) b = .ok (b, b) := rfl
  cases fuel with
  | zero => rfl
  | succ fuel =>
    rw [fillAll, bind_ok hget, hlater]
    rfl

end Build

/-! ## Cells -/

namespace Cell

variable {settled : Settled}

/-- A scalar is plain. -/
theorem plain?_of_isScalar {v : Value} (h : isScalar v = true) : plain? settled v = some v := by
  cases v with
  | knot _ _ => cases h
  | _ => rfl

/-- Entries with scalars under their keys are plain. -/
theorem mapM_plain? {es : Entries} (h : ∀ e ∈ es, isScalar e.2 = true) :
    es.mapM (fun e => (plain? settled e.2).map fun v => (e.1, v)) = some es := by
  induction es with
  | nil => rfl
  | cons e es ih =>
    obtain ⟨he, hes⟩ := List.forall_mem_cons.mp h
    rw [List.mapM_cons, plain?_of_isScalar he, ih hes]
    rfl

/-- A cell that is not known to be plain is looked at. -/
theorem visit_of_pending {cells : Array Value} {n : Nat} {cell : Value}
    (hn : settled[n]? = some none) (hcell : cells[n]? = some cell) :
    visit cells settled n = settled.set! n (plainCell? settled cell) := by
  rw [visit, hn, hcell]

theorem visit_of_settled (cells : Array Value) {n : Nat} {v : Value}
    (hn : settled[n]? = some (some v)) : visit cells settled n = settled := by
  rw [visit, hn]

/-- The value of what is plain is what it was found to be. -/
theorem value_of_settled {cells : Array Value} {v w : Value}
    (h : plain? (settle cells cells.size (Array.replicate cells.size none)) v = some w) :
    value cells v = w := by
  simp only [value, h]

/-- A map under a key of another map, with scalars beside it and in it. -/
theorem value_nested {k : Value} {others under : Entries}
    (hothers : ∀ e ∈ others, isScalar e.2 = true) (hunder : ∀ e ∈ under, isScalar e.2 = true) :
    value #[.map ((k, .knot [] 1) :: others), .map under] (.knot [] 0) =
      .map ((k, .map under) :: others) := by
  let cells : Array Value := #[.map ((k, .knot [] 1) :: others), .map under]
  have hzero : cells[0]? = some (.map ((k, .knot [] 1) :: others)) := rfl
  have hone : cells[1]? = some (.map under) := rfl
  let outer : Value := .map ((k, .map under) :: others)
  let both : Settled := #[some outer, some (.map under)]
  have hinner : plainCell? #[none, none] (.map under) = some (.map under) := by
    rw [plainCell?, mapM_plain? hunder]
    rfl
  have houter : plainCell? #[none, some (.map under)] (.map ((k, .knot [] 1) :: others)) =
      some outer := by
    rw [plainCell?, List.mapM_cons, mapM_plain? hothers]
    rfl
  -- the inner map is plain, and with it the outer one
  have hfirst : visit cells #[none, none] 1 = #[none, some (.map under)] := by
    rw [visit_of_pending rfl hone, hinner]
    rfl
  have hsecond : visit cells #[none, some (.map under)] 0 = both := by
    rw [visit_of_pending rfl hzero, houter]
    rfl
  have hkept : visit cells both 0 = both ∧ visit cells both 1 = both :=
    ⟨visit_of_settled cells rfl, visit_of_settled cells rfl⟩
  have hround : (List.range 2).reverse ++ List.range 2 = [1, 0, 0, 1] := rfl
  have hsettled : settle cells 2 #[none, none] = both := by
    have hsize : cells.size = 2 := rfl
    have hcount : both.countP Option.isSome = 2 := rfl
    have hnone : (#[none, none] : Array (Option Value)).countP Option.isSome = 0 := rfl
    rw [settle, settle]
    simp only [hsize, hround, List.foldl_cons, List.foldl_nil, hfirst, hsecond, hkept, hcount,
      hnone]
    rfl
  refine value_of_settled ?_
  show plain? (settle cells 2 #[none, none]) (.knot [] 0) = some outer
  rw [hsettled]
  rfl

end Cell

namespace Sheet

variable {d : Sheet}

/-- The keys of the sheet are texts, and no key comes twice. -/
structure HasKeys (d : Sheet) : Prop where
  name : resolve (.ofChars d.name) = .text
  under : ∀ l ∈ d.first :: d.more, resolve (.ofChars l.key) = .text
  others : ∀ l ∈ d.others, resolve (.ofChars l.key) = .text
  distinctUnder : ((d.first :: d.more).map Line.key).Nodup
  distinctOthers : (d.name :: d.others.map Line.key).Nodup

/-- The number of the first node of the lines beside the name. -/
def besides (d : Sheet) : Nat := 3 + 2 * (d.more.length + 1)

/-- The data of a sheet, whose document has the number. -/
def data (document : Nat) (d : Sheet) : Except DocumentFault Entries := do
  let others ← Line.data document d.besides d.others
  let under ← Line.data document 3 (d.first :: d.more)
  return (.text (.ofChars d.name), .map under) :: others

/-- What has been made when the map under the name has been begun. -/
def nested (document : Nat) (d : Sheet) : Build where
  nodes := d.nodes.toArray
  made := (((Array.replicate d.nodes.length none).setIfInBounds 0 (some (.knot [] 0))).setIfInBounds
    1 (some (.text (.ofChars d.name)))).setIfInBounds 2 (some (.knot [] 1))
  cells := #[.list [], .list []]
  later := [(1, 2)]
  document := document

/-- The lines under the name are numbered behind the map that they are in. -/
theorem areAt_under (d : Sheet) : Line.AreAt d.nodes.toArray 3 (d.first :: d.more) :=
  Line.areAt_of_append [.mapping .map ((1, 2) :: Line.entries d.besides d.others), textNode d.name,
    .mapping .map (Line.entries 3 (d.first :: d.more))] (d.first :: d.more)
      (d.others.flatMap Line.nodes)

theorem areAt_others (d : Sheet) : Line.AreAt d.nodes.toArray d.besides d.others := by
  have hat := Line.areAt_of_append ([.mapping .map ((1, 2) :: Line.entries d.besides d.others),
    textNode d.name, .mapping .map (Line.entries 3 (d.first :: d.more))] ++
      (d.first :: d.more).flatMap Line.nodes) d.others []
  rw [List.length_append, Line.length_nodes, List.append_nil, List.append_assoc] at hat
  exact hat

theorem getElem?_zero (d : Sheet) : d.nodes.toArray[0]? =
    some (.mapping .map ((1, 2) :: Line.entries d.besides d.others)) := rfl

theorem getElem?_one (d : Sheet) : d.nodes.toArray[1]? = some (textNode d.name) := rfl

theorem getElem?_two (d : Sheet) : d.nodes.toArray[2]? =
    some (.mapping .map (Line.entries 3 (d.first :: d.more))) := rfl

/-- The name is the only scalar that was made when the map under it is begun. -/
theorem agrees_nested (h : d.HasKeys) (document : Nat) : (d.nested document).Agrees := by
  let start : Build := {
    nodes := d.nodes.toArray, made := Array.replicate d.nodes.length none, document }
  have hstart : start.Agrees := by
    intro n cs v _ hmade
    rw [Array.getElem?_replicate] at hmade
    split at hmade <;> cases hmade
  have hroot := hstart.record (n := 0) (v := .knot [] 0) fun cs hnode => by
    cases d.getElem?_zero.symm.trans hnode
  have hname := hroot.record (n := 1) (v := .text (.ofChars d.name)) fun cs hnode => by
    rw [plainValue_congr (Option.some.inj (hnode.symm.trans d.getElem?_one)),
      plainValue_of_text h.name]
  exact hname.record fun cs hnode => by
    cases d.getElem?_two.symm.trans hnode

/-- The outermost map is filled first, and the map under its name is begun before the lines beside
it are looked at. -/
theorem value_eq_outer (h : d.HasKeys) (document : Nat) :
    Graph.value document ⟨d.nodes.toArray, 0⟩ =
      (((Line.entries d.besides d.others).foldlM Build.putEntry
        [(.text (.ofChars d.name), .knot [] 1)] (d.nested document)).bind fun r =>
          Build.fillAll d.nodes.length
            { r.2 with cells := r.2.cells.setIfInBounds 0 (.map r.1) }).map fun r =>
              Cell.value r.2.cells (.knot [] 0) := by
  let start : Build := {
    nodes := d.nodes.toArray, made := Array.replicate d.nodes.length none, document }
  let begun : Build := { start with
    made := start.made.setIfInBounds 0 (some (.knot [] 0)), cells := #[.list []] }
  let named : Build := { begun with
    made := begun.made.setIfInBounds 1 (some (.text (.ofChars d.name))) }
  have hnew (n : Nat) : (start.made[n]?).join = none := by
    rw [Array.getElem?_replicate]
    split <;> rfl
  have hstart : Build.make 0 start = .ok (.knot [] 0, { begun with later := [(0, 0)] }) :=
    Build.make_map d.getElem?_zero (hnew 0)
  have hentry : Build.putEntry [] (1, 2) begun =
      .ok ([(.text (.ofChars d.name), .knot [] 1)], d.nested document) := by
    have hmade : (begun.made[1]?).join = none := by
      rw [Array.getElem?_setIfInBounds_ne (by decide)]
      exact hnew 1
    have hmade' : (named.made[2]?).join = none := by
      rw [Array.getElem?_setIfInBounds_ne (by decide), Array.getElem?_setIfInBounds_ne (by decide)]
      exact hnew 2
    have hkey : Build.makeKey 1 begun = .ok (.text (.ofChars d.name), named) := by
      have hmake := Build.make_new d.getElem?_one hmade
      rw [plainValue_of_text h.name] at hmake
      rw [Build.makeKey, bind_ok hmake]
      rfl
    rw [Build.putEntry, bind_ok hkey, bind_ok (Build.make_map d.getElem?_two hmade')]
    rfl
  have hentries : Build.mapEntries 0 begun = (Line.entries d.besides d.others).foldlM
      Build.putEntry [(.text (.ofChars d.name), .knot [] 1)] (d.nested document) := by
    have hkeys : ∀ e ∈ (1, 2) :: Line.entries d.besides d.others, ∃ cs,
        d.nodes.toArray[e.1]? = some (textNode cs) ∧ resolve (.ofChars cs) = .text := by
      refine List.forall_mem_cons.mpr ⟨⟨d.name, d.getElem?_one, h.name⟩, fun e he => ?_⟩
      obtain ⟨l, hl, hkey⟩ := Line.mem_entries d.areAt_others he
      exact ⟨l.key, hkey, h.others l hl⟩
    rw [Build.mapEntries_eq d.getElem?_zero hkeys, List.foldlM_cons, bind_ok hentry]
  have hlater : ({ begun with later := [(0, 0)] } : Build).later = [(0, 0)] := rfl
  have hfill := Build.fillAll_one d.nodes.length hlater
  have hrun : Graph.value document ⟨d.nodes.toArray, 0⟩ =
      ((do
        let v ← Build.make 0
        Build.fillAll (d.nodes.length + 1)
        return Cell.value (← get).cells v : Build.Builder Value) start).map Prod.fst := rfl
  rw [hrun, bind_ok hstart]
  show Except.map _ (Except.bind (Build.fillAll _ _) _) = _
  rw [hfill, Build.fill_map d.getElem?_zero, hentries]
  cases (Line.entries d.besides d.others).foldlM Build.putEntry
    [(.text (.ofChars d.name), .knot [] 1)] (d.nested document) with
  | error f => rfl
  | ok r =>
    show Except.map _ (Except.bind (Build.fillAll d.nodes.length _) _) =
      Except.map _ (Build.fillAll d.nodes.length _)
    let outer : Build := { r.2 with cells := r.2.cells.setIfInBounds 0 (.map r.1) }
    cases Build.fillAll d.nodes.length outer <;> rfl

/-- **The data of a sheet.** -/
theorem value_graph (h : d.HasKeys) (document : Nat) :
    Graph.value document ⟨d.nodes.toArray, 0⟩ = (d.data document).map Value.map := by
  rw [value_eq_outer h, data]
  have hagrees := agrees_nested h document
  cases hothers : Line.data document d.besides d.others with
  | error f =>
    rw [Build.foldlM_lines_of_error hagrees d.areAt_others h.others hothers]
    rfl
  | ok others =>
    obtain ⟨hotherKeys, hotherScalars⟩ := Line.mem_data hothers
    let knotted : Entries := [(.text (.ofChars d.name), .knot [] 1)] ++ others
    have hdistinct : knotted.AreApart :=
      Line.areApart_of_nodup h.distinctOthers (congrArg (_ :: ·) hotherKeys)
    obtain ⟨made, hmade, hagrees'⟩ := Build.foldlM_lines hagrees d.areAt_others h.others hothers
      hdistinct
    let rooted : Build := { d.nested document with
      made, cells := #[.map knotted, .list []], later := [] }
    have hagrees'' : rooted.Agrees := hagrees'
    have hlater : ({ rooted with later := [(1, 2)] } : Build).later = [(1, 2)] := rfl
    have hentries : Build.mapEntries 2 rooted =
        (Line.entries 3 (d.first :: d.more)).foldlM Build.putEntry [] rooted := by
      refine Build.mapEntries_eq d.getElem?_two fun e he => ?_
      obtain ⟨l, hl, hkey⟩ := Line.mem_entries d.areAt_under he
      exact ⟨l.key, hkey, h.under l hl⟩
    obtain ⟨fuel, hfuel⟩ : ∃ fuel, d.nodes.length = fuel + 1 := ⟨_, rfl⟩
    have hinner := Build.fillAll_one fuel hlater
    rw [Build.fill_map d.getElem?_two, hentries] at hinner
    rw [hmade, hfuel]
    show (Build.fillAll (fuel + 1) { rooted with later := [(1, 2)] }).map _ = _
    rw [hinner]
    cases hunder : Line.data document 3 (d.first :: d.more) with
    | error f =>
      rw [Build.foldlM_lines_of_error hagrees'' d.areAt_under h.under hunder]
      rfl
    | ok under =>
      obtain ⟨hunderKeys, hunderScalars⟩ := Line.mem_data hunder
      have hdistinct' : Entries.AreApart ([] ++ under) :=
        Line.areApart_of_nodup h.distinctUnder hunderKeys
      obtain ⟨made', hmade', _⟩ := Build.foldlM_lines hagrees'' d.areAt_under h.under hunder
        hdistinct'
      rw [hmade']
      let built : Build := { rooted with made := made', cells := #[.map knotted, .map under] }
      show (Build.fillAll fuel built).map _ = _
      rw [Build.fillAll_nil fuel rfl]
      exact congrArg Except.ok (Cell.value_nested hotherScalars hunderScalars)

end Sheet

end Yaml

open Yaml

/-- **A sheet is a document with the data of the sheet.** -/
theorem Document.parse_written {d : Sheet} (h : d.IsSound) (hkeys : d.HasKeys)
    (hchars : ∀ x ∈ d.written, isDocumentChar x = true) (number : Nat) :
    parse number (.ofChars d.written) = (d.data number).map fun es => some (.map es) := by
  have hdocument : (Text.ofChars d.written).all (Symbol.isChar isDocumentChar) = true := by
    rw [Text.ofChars, List.all_map, List.all_eq_true]
    exact hchars
  rw [parse, if_pos hdocument, Text.shown_ofChars, Sheet.tokensOf_written h,
    Sheet.ofTokens?_tokens]
  show Except.bind (Graph.value number _) _ = _
  rw [Sheet.value_graph hkeys]
  cases d.data number <;> rfl

/-- **A line that cannot be read makes a document malformed**, whatever is behind it. -/
theorem Document.parse_stopped {t : Text} {name key text bad : List Char} {l : Line}
    {ls : List Line} {n : Nat} (hname : IsKey name) (hls : ∀ l' ∈ l :: ls, l'.IsSound)
    (hkey : IsKey key) (htext : IsInline text)
    (hbegin : ∃ x rest, text ++ (List.replicate n ' ' ++ bad) = x :: rest ∧
      Scan.beginsPlain false x rest = true)
    (hmark : text.getLast? = some ':' → atGap (List.replicate n ' ' ++ bad) = false)
    (hbad : IsStop bad)
    (ht : t.shown = name ++ ':' :: '\n' :: (Line.block 2 (l :: ls) ++ (List.replicate 2 ' ' ++
      (key ++ ':' :: ' ' :: (text ++ (List.replicate n ' ' ++ bad)))))) (number : Nat) :
    parse number t = .error .malformed := by
  have htokens := Scan.tokensOf_stopped hname hls hkey htext hbegin hmark hbad
  unfold parse
  rw [ht, htokens, Graph.ofTokens?_broken]
  split <;> rfl

end StagedLoad

import StagedLoad.Proofs.Merge
import StagedLoad.Yaml.Build

/-!
# Keys of documents

A map in a document has no text key twice, since equal keys are put under one another.  A document
that is a map outright also has no map that is inside itself: the way down to such a map is made of
cells that are not plain, and it begins at the document.

* `Yaml.Build.Keeps.fillAll` : while values are made, cells refer to cells and maps have distinct
  keys.
* `Yaml.Cell.isRegular_of_value` : what comes out of such cells as a map is regular.
* `Document.isRegular_of_parse` : a document that is a map is regular.
-/

namespace StagedLoad

/-! ## Entries with distinct keys -/

namespace Entries

/-- Whether no text is a key twice. -/
def isDistinct : Entries → Bool
  | [] => true
  | (k, _) :: es => !repeats es k && isDistinct es

/-- Keys are distinct one by one, each from all the others. -/
theorem isDistinct_cons {k v : Value} {es : Entries} :
    isDistinct ((k, v) :: es) = true ↔ repeats es k = false ∧ isDistinct es = true := by
  simp only [isDistinct, Bool.and_eq_true, Bool.not_eq_true']

/-- Putting keeps keys distinct: an equal key is replaced. -/
theorem isDistinct_put {k v : Value} {es : Entries} (h : isDistinct es = true) :
    isDistinct (put k v es) = true := by
  induction es with
  | nil => exact isDistinct_cons.mpr ⟨by cases k <;> rfl, rfl⟩
  | cons e es ih =>
    obtain ⟨k', v'⟩ := e
    obtain ⟨hk', hes⟩ := isDistinct_cons.mp h
    by_cases hput : k'.same k = true
    · rw [put, if_pos hput]
      exact h
    · rw [put, if_neg hput]
      exact isDistinct_cons.mpr ⟨(repeats_put hput).trans hk', ih hes⟩

/-- What is put adds its own value and no other one. -/
theorem mem_put {k v : Value} {es : Entries} {e : Value × Value} (h : e ∈ put k v es) :
    e.2 = v ∨ e ∈ es := by
  induction es with
  | nil => exact .inl (congrArg Prod.snd (List.mem_singleton.mp h))
  | cons e' es ih =>
    obtain ⟨k', v'⟩ := e'
    rw [put] at h
    split at h
    · rcases List.mem_cons.mp h with rfl | h
      · exact .inl rfl
      · exact .inr (List.mem_cons_of_mem _ h)
    · rcases List.mem_cons.mp h with rfl | h
      · exact .inr List.mem_cons_self
      · exact (ih h).imp_right (List.mem_cons_of_mem _)

/-- What is repeated depends on the keys only. -/
theorem repeats_congr {es es' : Entries} (h : keys es = keys es') (k : Value) :
    repeats es k = repeats es' k := by
  cases k with
  | text t =>
    show (text? t es).isSome = (text? t es').isSome
    induction es generalizing es' with
    | nil =>
      cases es' with
      | nil => rfl
      | cons _ _ => cases h
    | cons e es ih =>
      cases es' with
      | nil => cases h
      | cons e' es' =>
        obtain ⟨hhead, htail⟩ := List.cons.inj h
        rw [text?_cons, text?_cons, show e.1 = e'.1 from hhead]
        split
        · rfl
        · exact ih htail
  | _ => rfl

/-- Distinct keys whose values become regular make a regular map. -/
theorem isRegular_of_mapM {f : Value → Option Value} {es es' : Entries}
    (hes : isDistinct es = true) (hf : ∀ e ∈ es, ∀ v, f e.2 = some v → v.isRegular = true)
    (h : es.mapM (fun e => (f e.2).map fun v => (e.1, v)) = some es') :
    keys es' = keys es ∧ isRegular es' = true := by
  induction es generalizing es' with
  | nil =>
    cases h
    exact ⟨rfl, rfl⟩
  | cons e es ih =>
    obtain ⟨k, v⟩ := e
    obtain ⟨hk, hes⟩ := isDistinct_cons.mp hes
    obtain ⟨hv, hf⟩ := List.forall_mem_cons.mp hf
    rw [List.mapM_cons] at h
    obtain ⟨e', he', h⟩ := Option.bind_eq_some_iff.mp h
    obtain ⟨rest, hrest, h⟩ := Option.bind_eq_some_iff.mp h
    obtain ⟨v', hv', rfl⟩ := Option.map_eq_some_iff.mp he'
    cases h
    obtain ⟨hkeys, hregular⟩ := ih hes hf hrest
    exact ⟨congrArg (k :: ·) hkeys,
      isRegular_cons.mpr ⟨(repeats_congr hkeys k).trans hk, hv v' hv', hregular⟩⟩

end Entries

namespace Yaml

/-! ## Cells -/

namespace Cell

/-- Whether the value is a scalar or refers to a cell. -/
def isMember : Value → Bool
  | .list _ => false
  | .map _ => false
  | .knot cells _ => cells.isEmpty
  | _ => true

/-- Whether the value is a scalar. -/
def isScalar : Value → Bool
  | .list _ => false
  | .map _ => false
  | .knot _ _ => false
  | _ => true

theorem isMember_of_isScalar {v : Value} (h : isScalar v = true) : isMember v = true := by
  cases v with
  | list _ | map _ | knot _ _ => cases h
  | _ => rfl

/-- The content of a cell is a list, or a map of members with distinct keys. -/
def IsContent : Value → Prop
  | .list _ => True
  | .map es => Entries.isDistinct es = true ∧ ∀ e ∈ es, isMember e.2 = true
  | _ => False

/-- The cells have the contents that cells can have. -/
def AreContents (cells : Array Value) : Prop :=
  ∀ (n : Nat) (v : Value), cells[n]? = some v → IsContent v

/-- All cells that are known to be plain are regular. -/
def Settled.IsRegular (settled : Settled) : Prop :=
  ∀ (n : Nat) (v : Value), (settled[n]?).join = some v → v.isRegular = true

variable {settled : Settled}

/-- A member that is found plain is regular, if what is known to be plain is. -/
theorem isRegular_of_plain? (hsettled : settled.IsRegular) {v w : Value}
    (hv : isMember v = true) (h : plain? settled v = some w) : w.isRegular = true := by
  cases v with
  | list _ => cases hv
  | map _ => cases hv
  | knot cells n =>
    obtain rfl := List.isEmpty_iff.mp hv
    exact hsettled n w h
  | _ =>
    cases h
    rfl

/-- A cell that is found plain is regular, if what is known to be plain is. -/
theorem isRegular_of_plainCell? (hsettled : settled.IsRegular) {cell w : Value}
    (hcell : IsContent cell) (h : plainCell? settled cell = some w) : w.isRegular = true := by
  cases cell with
  | list xs =>
    obtain ⟨_, _, rfl⟩ := Option.map_eq_some_iff.mp h
    rfl
  | map es =>
    obtain ⟨es', hes', rfl⟩ := Option.map_eq_some_iff.mp h
    obtain ⟨hdistinct, hmembers⟩ := hcell
    refine (Entries.isRegular_of_mapM hdistinct ?_ hes').2
    exact fun e he v hv => isRegular_of_plain? hsettled (hmembers e he) hv
  | _ => exact hcell.elim

variable {cells : Array Value}

/-- Looking at one more cell keeps what is known regular. -/
theorem Settled.IsRegular.visit (hcells : AreContents cells) (h : settled.IsRegular) (n : Nat) :
    (visit cells settled n).IsRegular := by
  unfold Cell.visit
  split
  · rename_i cell _ hcell
    intro m v hv
    rw [Array.set!_eq_setIfInBounds, Array.getElem?_setIfInBounds] at hv
    split at hv
    · split at hv
      · exact isRegular_of_plainCell? h (hcells n _ hcell) hv
      · cases hv
    · exact h m v hv
  · exact h

/-- Looking at all cells again and again keeps what is known regular. -/
theorem Settled.IsRegular.settle (hcells : AreContents cells) (fuel : Nat)
    (h : settled.IsRegular) : (settle cells fuel settled).IsRegular := by
  induction fuel generalizing settled with
  | zero => exact h
  | succ fuel ih =>
    have hround : ∀ (ns : List Nat) {settled : Settled}, settled.IsRegular →
        (ns.foldl (Cell.visit cells) settled).IsRegular := by
      intro ns
      induction ns with
      | nil => exact id
      | cons n ns ihns => exact fun h => ihns (h.visit hcells n)
    rw [Cell.settle]
    split
    · exact hround _ h
    · exact ih (hround _ h)

/-- **What comes out of the cells as a map is regular.** -/
theorem isRegular_of_value (hcells : AreContents cells) {v : Value} (hv : isMember v = true)
    {es : Entries} (h : value cells v = .map es) : Entries.isRegular es = true := by
  have hempty : Settled.IsRegular (Array.replicate cells.size none) := by
    intro n v hv
    rw [Array.getElem?_replicate] at hv
    split at hv <;> cases hv
  have hsettled := hempty.settle hcells cells.size
  unfold value at h
  dsimp only at h
  split at h
  next w hw =>
    subst h
    exact isRegular_of_plain? hsettled hv hw
  next hnone =>
    -- what is not plain is a knot, also outside of the cells
    cases v with
    | list _ => cases hv
    | map _ => cases hv
    | knot members n =>
      obtain rfl := List.isEmpty_iff.mp hv
      cases h
    | _ => cases hnone

end Cell

/-! ## Making of values -/

namespace Build

open Cell (isMember isScalar isMember_of_isScalar IsContent)

/-- Whether the value is of the kind that the tag of a scalar asks for. -/
def isTagged : Tag → Value → Bool
  | .null, .null => true
  | .bool, .bool _ => true
  | .int, .int _ => true
  | .float, .float _ => true
  | .binary, .bytes _ => true
  | .timestamp, .date _ => true
  | .timestamp, .moment _ => true
  | .text, .text _ => true
  | _, _ => false

/-- **A scalar has a value of its tag.** -/
theorem isTagged_of_scalarValue {tag : Tag} {number : Nat} {text : Text} {v : Value}
    (h : scalarValue tag number text = .ok v) : isTagged tag v = true := by
  cases tag with
  | null | text =>
    cases h
    rfl
  | bool =>
    rw [scalarValue, truthScalar] at h
    split at h
    · cases h
      rfl
    · split at h <;> cases h
      rfl
  | int =>
    rw [scalarValue, integerScalar] at h
    dsimp only at h
    split at h
    · cases h
    · split at h <;> cases h
      rfl
  | float =>
    rw [scalarValue, floatScalar] at h
    dsimp only at h
    split at h
    · cases h
    · generalize unsignedFloat _ = number at h
      cases number with
      | error e => cases h
      | ok x =>
        cases h
        rfl
  | binary =>
    rw [scalarValue, binaryScalar] at h
    split at h
    · cases h
    · split at h <;> cases h
      rfl
  | timestamp =>
    rw [scalarValue, timestampScalar] at h
    split at h
    · cases h
    · split at h
      next hv =>
        cases h
        rw [WrittenDate.value?] at hv
        split at hv
        · obtain ⟨_, _, rfl⟩ := Option.map_eq_some_iff.mp hv
          rfl
        · obtain ⟨_, _, rfl⟩ := Option.map_eq_some_iff.mp hv
          rfl
      · cases h
  | _ => cases h

/-- The value of a scalar is a scalar. -/
theorem isScalar_of_scalarValue {tag : Tag} {number : Nat} {text : Text} {v : Value}
    (h : scalarValue tag number text = .ok v) : isScalar v = true := by
  have htagged := isTagged_of_scalarValue h
  cases v with
  | list _ | map _ | knot _ _ => cases tag <;> cases htagged
  | _ => rfl

/-- What a node denotes as a scalar is a member. -/
theorem isMember_of_scalar {nodes : Array Node} {document n : Nat} {node : Node} {v : Value}
    (h : scalar nodes document n node = .ok v) : isMember v = true := by
  unfold scalar at h
  cases htext : scalarText nodes (nodes.size + 1) n with
  | error e =>
    rw [htext] at h
    cases h
  | ok text =>
    rw [htext] at h
    dsimp only [bind, Except.bind] at h
    split at h
    · cases h
    · exact isMember_of_isScalar (isScalar_of_scalarValue h)

/-- What was made are members of cells, and the cells are as they should be. -/
structure IsSound (b : Build) : Prop where
  made : ∀ (n : Nat) (v : Value), (b.made[n]?).join = some v → isMember v = true
  cells : Cell.AreContents b.cells

/-- A member may be recorded as the value of any node. -/
theorem IsSound.record {b : Build} (hb : b.IsSound) (n : Nat) {v : Value}
    (hv : isMember v = true) :
    IsSound { b with made := b.made.setIfInBounds n (some v) } := by
  refine ⟨?_, hb.cells⟩
  intro m w hw
  rw [Array.getElem?_setIfInBounds] at hw
  split at hw
  · split at hw
    · cases hw
      exact hv
    · cases hw
  · exact hb.made m w hw

/-- Making that leaves all sound, and whose results are such. -/
def Keeps (m : Builder α) (P : α → Prop) : Prop :=
  ∀ b b' a, b.IsSound → m b = .ok (a, b') → b'.IsSound ∧ P a

namespace Keeps

variable {m : Builder α} {k : α → Builder β} {P : α → Prop} {Q : β → Prop}

/-- What follows may rely on what was said of the result before. -/
theorem bind (hm : Keeps m P) (hk : ∀ a, P a → Keeps (k a) Q) : Keeps (m >>= k) Q := by
  intro b b' c hb h
  replace h : (m b >>= fun p => k p.1 p.2) = .ok (c, b') := h
  cases hmb : m b with
  | error e =>
    rw [hmb] at h
    cases h
  | ok p =>
    rw [hmb] at h
    obtain ⟨hb₁, ha⟩ := hm b p.2 p.1 hb hmb
    exact hk p.1 ha p.2 b' c hb₁ h

/-- The result of making that begins with what is sound. -/
theorem run' (hm : Keeps m P) {b : Build} (hb : b.IsSound) {a : α} (h : m.run' b = .ok a) :
    P a := by
  replace h : Prod.fst <$> m b = .ok a := h
  cases hmb : m b with
  | error e =>
    rw [hmb] at h
    cases h
  | ok p =>
    rw [hmb] at h
    cases h
    exact (hm b p.2 p.1 hb hmb).2

/-- Less may be said of the result. -/
theorem mono {P' : α → Prop} (hm : Keeps m P) (h : ∀ a, P a → P' a) : Keeps m P' :=
  fun b b' a hb hmb => (hm b b' a hb hmb).imp_right (h a)

theorem pure {a : α} (h : P a) : Keeps (Pure.pure a) P := by
  intro b b' a' hb hab
  cases hab
  exact ⟨hb, h⟩

theorem throw (e : DocumentFault) : Keeps (throw e : Builder α) fun _ => False := by
  intro b b' a _ h
  cases h

/-- What is computed without making anything leaves all sound. -/
theorem lift {r : Except DocumentFault α} (h : ∀ a, r = .ok a → P a) :
    Keeps (liftM r : Builder α) P := by
  intro b b' a hb hab
  cases r with
  | error e => cases hab
  | ok a' =>
    cases hab
    exact ⟨hb, h a rfl⟩

theorem get : Keeps (get : Builder Build) IsSound := by
  intro b b' a hb h
  cases h
  exact ⟨hb, hb⟩

theorem modify {f : Build → Build} (h : ∀ b, b.IsSound → (f b).IsSound) :
    Keeps (modify f : Builder Unit) fun _ => True := by
  intro b b' a hb hab
  cases hab
  exact ⟨h b hb, trivial⟩

/-- Results are made one by one from a list. -/
theorem mapM {γ : Type} {f : γ → Builder α} (hf : ∀ x, Keeps (f x) fun _ => True) (xs : List γ) :
    Keeps (xs.mapM f) fun _ => True := by
  induction xs with
  | nil => exact pure trivial
  | cons x xs ih =>
    rw [List.mapM_cons]
    exact (hf x).bind fun _ _ => ih.bind fun _ _ => pure trivial

/-- One result is made from a list, with the same said of it after every member. -/
theorem foldlM {γ : Type} {f : α → γ → Builder α} (hf : ∀ a x, P a → Keeps (f a x) P)
    (xs : List γ) : ∀ {a : α}, P a → Keeps (xs.foldlM f a) P := by
  induction xs with
  | nil => exact fun h => pure h
  | cons x xs ih =>
    intro a h
    rw [List.foldlM_cons]
    exact (hf a x h).bind fun _ h => ih h

/-- Something is done for every member of a list. -/
theorem forM {γ : Type} {f : γ → Builder PUnit} (hf : ∀ x, Keeps (f x) fun _ => True)
    (xs : List γ) : Keeps (xs.forM f) fun _ => True := by
  induction xs with
  | nil => exact pure trivial
  | cons x xs ih =>
    show Keeps (f x >>= fun _ => xs.forM f) _
    exact (hf x).bind fun _ _ => ih

theorem map {f : α → β} (hm : Keeps m fun a => Q (f a)) : Keeps (f <$> m) Q := by
  rw [map_eq_pure_bind]
  exact hm.bind fun _ h => pure h

/-- A new cell is a list until it is filled, and stands for a member. -/
theorem addCell (xs : List Value) : Keeps (addCell (.list xs)) fun v => isMember v = true := by
  intro b b' v hb hv
  cases hv
  refine ⟨⟨hb.made, ?_⟩, rfl⟩
  intro n v hv
  rw [Array.getElem?_push] at hv
  split at hv
  · cases hv
    trivial
  · exact hb.cells n v hv

/-- A cell may be filled with contents that cells can have. -/
theorem setCell (cell : Nat) {content : Value} (h : IsContent content) :
    Keeps (setCell cell content) fun _ => True := by
  refine modify fun b hb => ⟨hb.made, ?_⟩
  intro n v hv
  rw [Array.getElem?_setIfInBounds] at hv
  split at hv
  · split at hv
    · cases hv
      exact h
    · cases hv
  · exact hb.cells n v hv

/-- **The value of a node is a member**, for a list or a map is a reference to its cell. -/
theorem make (n : Nat) : Keeps (make n) fun v => isMember v = true := by
  unfold Build.make
  refine get.bind fun b hb => ?_
  split
  next v hv => exact pure (hb.made n v hv)
  next =>
    dsimp only
    split
    · refine (lift fun v hv => isMember_of_scalar hv).bind fun v hv => ?_
      exact (modify fun _ hb => hb.record n hv).bind fun _ _ => pure hv
    · refine bind (modify ?_) fun _ _ => (addCell []).bind fun v hv => ?_
      · exact fun b hb => ⟨hb.made, hb.cells⟩
      exact (modify fun _ hb => hb.record n hv).bind fun _ _ => pure hv
    · exact (throw .malformed).bind fun _ => False.elim

theorem makeKey (n : Nat) : Keeps (makeKey n) fun _ => True := by
  refine (make n).bind fun v _ => ?_
  split
  · exact (throw .malformed).mono fun _ => False.elim
  · exact pure trivial

/-- **The entries of a map have distinct keys.** -/
theorem mapEntries (n : Nat) : Keeps (mapEntries n) fun es => IsContent (.map es) := by
  unfold Build.mapEntries
  refine get.bind fun b _ => (lift fun _ _ => trivial).bind fun p _ => ?_
  refine bind (modify ?_) fun _ _ => (lift fun _ _ => trivial).bind fun q _ => ?_
  · exact fun b hb => ⟨hb.made, hb.cells⟩
  refine foldlM ?_ q.1 ⟨rfl, List.forall_mem_nil _⟩
  rintro es e ⟨hdistinct, hmembers⟩
  refine (makeKey e.1).bind fun k _ => (make e.2).bind fun v hv => pure ?_
  refine ⟨Entries.isDistinct_put hdistinct, fun e' he' => ?_⟩
  rcases Entries.mem_put he' with h | h
  · rw [h]
    exact hv
  · exact hmembers e' h

/-- A pair is a list in a cell of its own. -/
theorem makePair (n : Nat) : Keeps (makePair n) fun _ => True := by
  refine get.bind fun b _ => ?_
  split
  · refine (make _).bind fun k _ => (make _).bind fun v _ => ?_
    exact (addCell [k, v]).mono fun _ _ => trivial
  · exact (throw .malformed).mono fun _ => False.elim

/-- **Filling a cell keeps all sound**: keys that are equal are put under one another. -/
theorem fill (cell n : Nat) : Keeps (fill cell n) fun _ => True := by
  have hmake : ∀ n, Keeps (Build.make n) fun _ => True :=
    fun n => (make n).mono fun _ _ => trivial
  refine get.bind fun b _ => ?_
  dsimp only
  split
  · exact (map ((mapM hmake _).mono fun _ _ => trivial)).bind fun _ h => setCell cell h
  · exact (map (mapM makePair _)).bind fun _ h => setCell cell h
  · exact (map (mapEntries n)).bind fun _ h => setCell cell h
  · exact (map ((mapEntries n).mono fun _ _ => trivial)).bind fun _ h => setCell cell h
  · exact (throw .malformed).bind fun _ => False.elim

/-- **Filling leaves the cells as they should be.** -/
theorem fillAll (fuel : Nat) : Keeps (fillAll fuel) fun _ => True := by
  induction fuel with
  | zero => exact pure trivial
  | succ fuel ih =>
    refine get.bind fun b _ => ?_
    dsimp only
    split
    · exact pure trivial
    · refine bind (modify ?_) fun _ _ => bind (forM ?_ _) fun _ _ => ih
      · exact fun b hb => ⟨hb.made, hb.cells⟩
      · exact fun p => fill p.1 p.2

end Keeps

end Build

/-- **A graph that stands for a map stands for a regular one.** -/
theorem Graph.isRegular_of_value {document : Nat} {g : Graph} {es : Entries}
    (h : g.value document = .ok (.map es)) : Entries.isRegular es = true := by
  have hstart : Build.IsSound
      { nodes := g.nodes, made := Array.replicate g.nodes.size none, document } := by
    refine ⟨?_, fun n v hv => ?_⟩
    · intro n v hv
      rw [Array.getElem?_replicate] at hv
      split at hv <;> cases hv
    · cases hv
  have hkeeps : Build.Keeps (do
      let v ← Build.make g.root
      Build.fillAll (g.nodes.size + 1)
      return Cell.value (← get).cells v) fun v => ∀ es, v = .map es → Entries.isRegular es = true :=
    (Build.Keeps.make g.root).bind fun v hv => (Build.Keeps.fillAll _).bind fun _ _ =>
      Build.Keeps.get.bind fun b hb => .pure fun es => Cell.isRegular_of_value hb.cells hv
  exact hkeeps.run' hstart h es rfl

end Yaml

/-- **A document that is a map is a regular one.** -/
theorem Document.isRegular_of_parse {number : Nat} {text : Text} {es : Entries}
    (h : parse number text = .ok (some (.map es))) : Entries.isRegular es = true := by
  unfold parse at h
  split at h
  · cases hgraph : Yaml.Graph.ofTokens? (Yaml.tokensOf text.shown) with
    | error e =>
      rw [hgraph] at h
      cases h
    | ok g =>
      rw [hgraph] at h
      cases g with
      | none => cases h
      | some g =>
        replace h : (g.value number >>= fun v => pure (some v)) = .ok (some (.map es)) := h
        cases hvalue : g.value number with
        | error e =>
          rw [hvalue] at h
          cases h
        | ok v =>
          rw [hvalue] at h
          cases h
          exact Yaml.Graph.isRegular_of_value hvalue
  · cases h

end StagedLoad

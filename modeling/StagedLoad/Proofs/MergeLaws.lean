import StagedLoad.Proofs.Merge

/-!
# Laws of merging

Two maps are the same up to the order of their keys, if each path of keys leads to a map in both, to
nothing in both, or to the same value in both.  Merging goes key by key wherever a value is not
replaced, so its laws hold at a path because they hold one key further: each is proved by induction
on the path, for values that may be missing.  Keys may be of any kind, as long as no map has one of
them twice.

* `Entries.get?_deepMerge` : what is under a key of merged maps.
* `Value.mergeOver?_twice` : a value that is put over twice counts once.
* `Value.mergeOver?_assoc` : merging is associative, unless a scalar lies between two maps.
* `Value.mergeOver?_again` : what is below counts no more below everything else.
-/

namespace StagedLoad

/-! ## Maps with distinct keys -/

mutual

/-- Whether all maps in the value have keys that are equal to no other key, and none is inside
itself. -/
def Value.isWellKeyed : Value → Bool
  | .map es => Entries.isWellKeyed es
  | .knot _ _ => false
  | _ => true

/-- Whether each key is one, no key comes twice, and all maps in the values are such maps. -/
def Entries.isWellKeyed : Entries → Bool
  | [] => true
  | (k, v) :: es =>
    k.same k && !Entries.has k es && Value.isWellKeyed v && Entries.isWellKeyed es

end

/-- One value over another, where either may be missing. -/
def Value.mergeOver? (old new : Option Value) : Option Value :=
  Option.merge Value.mergeOver old new

@[simp] theorem Value.mergeOver?_none (v : Option Value) : mergeOver? v none = v :=
  Option.merge_none_right

@[simp] theorem Value.none_mergeOver? (v : Option Value) : mergeOver? none v = v :=
  Option.merge_none_left

namespace Entries

/-- Entries are well keyed one by one, each with a key that the others lack. -/
theorem isWellKeyed_cons {k v : Value} {es : Entries} : isWellKeyed ((k, v) :: es) = true ↔
    k.same k = true ∧ get? k es = none ∧ v.isWellKeyed = true ∧ isWellKeyed es = true := by
  simp only [isWellKeyed, has, Bool.and_eq_true, Bool.not_eq_true', and_assoc,
    Option.isSome_eq_false_iff, Option.isNone_iff_eq_none]

/-- What is found in well-keyed entries is well keyed. -/
theorem isWellKeyed_of_get? {es : Entries} (h : isWellKeyed es = true) {k v : Value}
    (hv : get? k es = some v) : v.isWellKeyed = true := by
  induction es with
  | nil => cases hv
  | cons e es ih =>
    obtain ⟨k', v'⟩ := e
    obtain ⟨_, _, hv', hes⟩ := isWellKeyed_cons.mp h
    rw [get?] at hv
    split at hv
    · cases hv
      exact hv'
    · exact ih hes hv

/-- **What is under a key of merged maps.** -/
theorem get?_deepMerge {base upper : Entries} (h : isWellKeyed upper = true) (k : Value) :
    get? k (deepMerge base upper) = Value.mergeOver? (get? k base) (get? k upper) := by
  induction upper generalizing base with
  | nil => exact (Value.mergeOver?_none _).symm
  | cons e upper ih =>
    obtain ⟨k', new⟩ := e
    obtain ⟨_, hk', _, hupper⟩ := isWellKeyed_cons.mp h
    rw [deepMerge, ih hupper, get?_put, get?]
    by_cases hk : k'.same k = true
    · rw [if_pos hk, if_pos hk, ← get?_congr hk upper, hk', get?_congr hk base]
      cases get? k base <;> rfl
    · rw [if_neg hk, if_neg hk]

/-- A well-keyed value may be put under any key. -/
theorem isWellKeyed_put {k v : Value} {es : Entries} (hk : k.same k = true)
    (hv : v.isWellKeyed = true) (hes : isWellKeyed es = true) :
    isWellKeyed (put k v es) = true := by
  induction es with
  | nil => exact isWellKeyed_cons.mpr ⟨hk, rfl, hv, rfl⟩
  | cons e es ih =>
    obtain ⟨k', v'⟩ := e
    obtain ⟨hself, hk', hv', hes⟩ := isWellKeyed_cons.mp hes
    by_cases hput : k'.same k = true
    · rw [put, if_pos hput]
      exact isWellKeyed_cons.mpr ⟨hself, hk', hv, hes⟩
    · rw [put, if_neg hput]
      refine isWellKeyed_cons.mpr ⟨hself, ?_, hv', ih hes⟩
      rw [get?_put, if_neg fun h => hput (Value.same_symm h)]
      exact hk'

end Entries

mutual

/-- Merging keeps keys distinct, by induction on the upper value. -/
theorem Value.isWellKeyed_mergeOver {old : Value} (hold : old.isWellKeyed = true) :
    ∀ {new : Value}, new.isWellKeyed = true → (old.mergeOver new).isWellKeyed = true
  | .map upper, hnew => by
    cases old with
    | map base => exact Entries.isWellKeyed_deepMerge hold hnew
    | _ => exact hnew
  | .null, h | .bool _, h | .int _, h | .float _, h | .text _, h | .bytes _, h | .date _, h
  | .moment _, h | .list _, h | .knot _ _, h => h

/-- **Merging keeps keys distinct.** -/
theorem Entries.isWellKeyed_deepMerge {base : Entries} (hbase : Entries.isWellKeyed base = true) :
    ∀ {upper : Entries}, Entries.isWellKeyed upper = true →
      Entries.isWellKeyed (Entries.deepMerge base upper) = true
  | [], _ => hbase
  | (k, new) :: upper, hupper => by
    obtain ⟨hk, _, hnew, hupper⟩ := Entries.isWellKeyed_cons.mp hupper
    refine Entries.isWellKeyed_deepMerge (Entries.isWellKeyed_put hk ?_ hbase) hupper
    cases hold : Entries.get? k base with
    | none => exact hnew
    | some old => exact Value.isWellKeyed_mergeOver (Entries.isWellKeyed_of_get? hbase hold) hnew

end

/-! ## Maps up to the order of keys -/

namespace Value

/-- What is under the key of a value that is a map. -/
def under? (k : Value) : Value → Option Value
  | map es => Entries.get? k es
  | _ => none

/-- What the keys lead to, one after the other. -/
def down? : Option Value → List Value → Option Value
  | v, [] => v
  | v, k :: p => down? (v.bind (under? k)) p

theorem down?_none (p : List Value) : down? none p = none := by
  induction p with
  | nil => rfl
  | cons k p ih => exact ih

/-- The value without what it has under its keys. -/
def outline : Value → Value
  | map _ => map []
  | v => v

/-- The two are the same but for the order of keys: at every path both have a map, both have
nothing, or both have the same value that is no map. -/
def UpToOrder (v w : Option Value) : Prop :=
  ∀ p, (down? v p).map outline = (down? w p).map outline

variable {u v w x y z : Option Value}

namespace UpToOrder

theorem refl (v : Option Value) : UpToOrder v v := fun _ => rfl

theorem symm (h : UpToOrder v w) : UpToOrder w v := fun p => (h p).symm

theorem trans (huv : UpToOrder u v) (hvw : UpToOrder v w) : UpToOrder u w :=
  fun p => (huv p).trans (hvw p)

end UpToOrder

/-- Whether all maps in what is there have distinct keys. -/
def WellKeyed (v : Option Value) : Prop := ∀ u ∈ v, u.isWellKeyed = true

/-- What is under a key of well-keyed maps is well keyed. -/
theorem WellKeyed.under (h : WellKeyed v) (k : Value) : WellKeyed (v.bind (under? k)) := by
  intro u hu
  obtain ⟨w, hw, hu⟩ := Option.bind_eq_some_iff.mp hu
  cases w with
  | map es => exact Entries.isWellKeyed_of_get? (h _ hw) hu
  | _ => cases hu

/-- Well-keyed values are merged to such values. -/
theorem WellKeyed.mergeOver? (hx : WellKeyed x) (hy : WellKeyed y) :
    WellKeyed (mergeOver? x y) := by
  intro u hu
  cases x with
  | none =>
    rw [none_mergeOver?] at hu
    exact hy u hu
  | some old =>
    cases y with
    | none => exact hx u hu
    | some new =>
      cases hu
      exact isWellKeyed_mergeOver (hx _ rfl) (hy _ rfl)

/-! ## One value over another -/

/-- Whatever is there is a map. -/
def IsOpen (v : Option Value) : Prop := ∀ u ∈ v, u.isMap = true

/-- What is there is a map or a scalar, or nothing is there. -/
theorem isOpen_or_scalar (v : Option Value) : IsOpen v ∨ ∃ u, v = some u ∧ u.isMap = false := by
  cases v with
  | none => exact .inl nofun
  | some u =>
    cases hu : u.isMap with
    | false => exact .inr ⟨u, rfl, hu⟩
    | true =>
      refine .inl fun w hw => ?_
      cases hw
      exact hu

/-- A scalar that is put over something replaces it. -/
theorem mergeOver_of_scalar {old new : Value} (h : new.isMap = false) :
    old.mergeOver new = new := by
  cases new with
  | map _ => cases h
  | _ => rfl

/-- What is put over a scalar replaces it. -/
theorem mergeOver_scalar {old : Value} (h : old.isMap = false) (new : Value) :
    old.mergeOver new = new := by
  cases new with
  | map upper =>
    cases old with
    | map _ => cases h
    | _ => rfl
  | _ => rfl

/-- Whether the result is a map is decided by the upper value. -/
theorem isMap_mergeOver (old new : Value) : (old.mergeOver new).isMap = new.isMap := by
  cases new with
  | map upper => cases old <;> rfl
  | _ => rfl

/-- The outline of the result is that of the upper value. -/
theorem outline_mergeOver (old new : Value) : (old.mergeOver new).outline = new.outline := by
  cases new with
  | map upper => cases old <;> rfl
  | _ => rfl

/-- A value that is no map hides what is below it. -/
theorem mergeOver?_scalar {new : Value} (h : new.isMap = false) (v : Option Value) :
    mergeOver? v (some new) = some new := by
  cases v with
  | none => rfl
  | some old => exact congrArg some (mergeOver_of_scalar h)

/-- A value that is no map is hidden by whatever is above it. -/
theorem scalar_mergeOver? {old : Value} (h : old.isMap = false) (new : Value) :
    mergeOver? (some old) (some new) = some new := congrArg some (mergeOver_scalar h new)

/-- The upper value counts, if it is there. -/
theorem outline_mergeOver? (v w : Option Value) :
    (mergeOver? v w).map outline = (w.map outline).or (v.map outline) := by
  cases v with
  | none => cases w <;> rfl
  | some old =>
    cases w with
    | none => rfl
    | some new => exact congrArg some (outline_mergeOver old new)

/-- A map that is put over anything gives a map. -/
theorem IsOpen.over {new : Value} (h : IsOpen (some new)) (v : Option Value) :
    IsOpen (mergeOver? v (some new)) := by
  cases v with
  | none => exact h
  | some old =>
    intro u hu
    cases hu
    rw [isMap_mergeOver]
    exact h _ rfl

/-- Two maps, either of which may be missing, are merged to a map if to anything. -/
theorem IsOpen.mergeOver? (hv : IsOpen v) (hw : IsOpen w) : IsOpen (mergeOver? v w) := by
  cases w with
  | none => rwa [mergeOver?_none]
  | some new => exact hw.over v

/-- **Keys are merged one by one**, where no value hides them. -/
theorem under?_mergeOver? (hw : IsOpen w) (hkeys : WellKeyed w) (k : Value) :
    (mergeOver? v w).bind (under? k) = mergeOver? (v.bind (under? k)) (w.bind (under? k)) := by
  cases w with
  | none => rw [mergeOver?_none, Option.bind_none, mergeOver?_none]
  | some new =>
    have hnew := hw _ rfl
    cases new with
    | map upper =>
      cases v with
      | none => rw [none_mergeOver?, Option.bind_none, none_mergeOver?]
      | some old =>
        cases old with
        | map base => exact Entries.get?_deepMerge (hkeys _ rfl) k
        | _ => exact (none_mergeOver? _).symm
    | _ => cases hnew

/-! ## Laws -/

/-- **A value that is put over twice** counts once. -/
theorem mergeOver?_twice (hy : WellKeyed y) :
    UpToOrder (mergeOver? (mergeOver? x y) y) (mergeOver? x y) := by
  intro p
  induction p generalizing x y with
  | nil => simp only [down?, outline_mergeOver?, ← Option.or_assoc, Option.or_self]
  | cons k p ih =>
    obtain hopen | ⟨u, rfl, hu⟩ := isOpen_or_scalar y
    · simp only [down?, under?_mergeOver? hopen hy]
      exact ih (hy.under k)
    · rw [mergeOver?_scalar hu, mergeOver?_scalar hu]

/-- Wherever the first and the last have a map, what is between them is one, if there is anything.
-/
def NoScalarBetween (x y z : Option Value) : Prop :=
  ∀ p u v w, down? x p = some u → down? y p = some v → down? z p = some w →
    u.isMap = true → w.isMap = true → v.isMap = true

/-- What holds at all paths holds at those below a key. -/
theorem NoScalarBetween.under (h : NoScalarBetween x y z) (k : Value) :
    NoScalarBetween (x.bind (under? k)) (y.bind (under? k)) (z.bind (under? k)) :=
  fun p => h (k :: p)

/-- **Layers can be put together from below or from above**, unless a value that is no map lies
between two maps. -/
theorem mergeOver?_assoc (hy : WellKeyed y) (hz : WellKeyed z) (h : NoScalarBetween x y z) :
    UpToOrder (mergeOver? (mergeOver? x y) z) (mergeOver? x (mergeOver? y z)) := by
  intro p
  induction p generalizing x y z with
  | nil => simp only [down?, outline_mergeOver?, Option.or_assoc]
  | cons k p ih =>
    obtain hz' | ⟨w, rfl, hw⟩ := isOpen_or_scalar z
    · obtain hy' | ⟨v, rfl, hv⟩ := isOpen_or_scalar y
      · simp only [down?, under?_mergeOver? hz' hz, under?_mergeOver? hy' hy,
          under?_mergeOver? (hy'.mergeOver? hz') (hy.mergeOver? hz)]
        exact ih (hy.under k) (hz.under k) (h.under k)
      · cases z with
        | none => rw [mergeOver?_none, mergeOver?_none]
        | some w =>
          have hx : ∀ u ∈ x, u.isMap = false := by
            intro u hu
            refine Bool.eq_false_iff.mpr fun hmap => ?_
            rw [h [] u v w hu rfl rfl hmap (hz' w rfl)] at hv
            cases hv
          rw [mergeOver?_scalar hv, scalar_mergeOver? hv]
          cases x with
          | none => rw [none_mergeOver?]
          | some u => rw [scalar_mergeOver? (hx u rfl)]
    · rw [mergeOver?_scalar hw, mergeOver?_scalar hw, mergeOver?_scalar hw]

/-- Between two maps a value that is no map keeps the lower one out, but only from below. -/
example :
    let a : Entries := [(.text "m", .map [(.text "k", .null)])]
    let b : Entries := [(.text "m", .int 0)]
    let c : Entries := [(.text "m", .map [])]
    Entries.deepMerge (Entries.deepMerge a b) c = c ∧
      Entries.deepMerge a (Entries.deepMerge b c) = a := ⟨rfl, rfl⟩

/-- **What is below counts no more below everything else.** -/
theorem mergeOver?_again (hx : WellKeyed x) (hy : WellKeyed y) (hz : WellKeyed z) :
    UpToOrder (mergeOver? x (mergeOver? y (mergeOver? x z))) (mergeOver? y (mergeOver? x z)) := by
  intro p
  induction p generalizing x y z with
  | nil =>
    simp only [down?, outline_mergeOver?]
    cases x.map outline <;> cases y.map outline <;> cases z.map outline <;> rfl
  | cons k p ih =>
    cases x with
    | none => rw [none_mergeOver?]
    | some u =>
      obtain hopen | ⟨v, hv, hscalar⟩ := isOpen_or_scalar (some u)
      · obtain hz' | ⟨w, rfl, hw⟩ := isOpen_or_scalar z
        · have hxz := hopen.mergeOver? hz'
          have hxz' : ∃ v, mergeOver? (some u) z = some v := by cases z <;> exact ⟨_, rfl⟩
          obtain ⟨v, hv⟩ := hxz'
          have hyxz : IsOpen (mergeOver? y (mergeOver? (some u) z)) := by
            rw [hv] at hxz ⊢
            exact hxz.over y
          simp only [down?, under?_mergeOver? hyxz (hy.mergeOver? (hx.mergeOver? hz)),
            under?_mergeOver? hxz (hx.mergeOver? hz), under?_mergeOver? hz' hz]
          exact ih (hx.under k) (hy.under k) (hz.under k)
        · rw [mergeOver?_scalar hw, mergeOver?_scalar hw, mergeOver?_scalar hw]
      · cases hv
        obtain ⟨w, hw⟩ : ∃ w, mergeOver? y (mergeOver? (some u) z) = some w := by
          cases y <;> cases z <;> exact ⟨_, rfl⟩
        rw [hw, scalar_mergeOver? hscalar]

/-! ## Layers up to order -/

/-- **The order of keys below does not count for what is put over it.** -/
theorem UpToOrder.mergeOver?_left (h : UpToOrder v w) (hz : WellKeyed z) :
    UpToOrder (mergeOver? v z) (mergeOver? w z) := by
  intro p
  induction p generalizing v w z with
  | nil => simp only [down?, outline_mergeOver?, show v.map outline = w.map outline from h []]
  | cons k p ih =>
    obtain hopen | ⟨u, rfl, hu⟩ := isOpen_or_scalar z
    · simp only [down?, under?_mergeOver? hopen hz]
      exact ih (fun p => h (k :: p)) (hz.under k)
    · rw [mergeOver?_scalar hu, mergeOver?_scalar hu]

theorem outline_of_scalar {u : Value} (h : u.isMap = false) : u.outline = u := by
  cases u with
  | map _ => cases h
  | _ => rfl

theorem outline_of_map {u : Value} (h : u.isMap = true) : u.outline = map [] := by
  cases u with
  | map _ => rfl
  | _ => cases h

/-- A value that is no map has no order of keys. -/
theorem UpToOrder.eq_of_scalar {u : Value} (h : UpToOrder (some u) w) (hu : u.isMap = false) :
    w = some u := by
  have hsame : some u.outline = w.map outline := h []
  rw [outline_of_scalar hu] at hsame
  obtain ⟨v, rfl, hv⟩ := Option.map_eq_some_iff.mp hsame.symm
  cases hmap : v.isMap with
  | false => rw [← hv, outline_of_scalar hmap]
  | true =>
    rw [← hv, outline_of_map hmap] at hu
    cases hu

/-- What is the same as a map up to order is a map. -/
theorem UpToOrder.isOpen (h : UpToOrder v w) (hv : IsOpen v) : IsOpen w := by
  obtain hw | ⟨u, rfl, hu⟩ := isOpen_or_scalar w
  · exact hw
  · rwa [h.symm.eq_of_scalar hu] at hv

/-- **The order of keys above does not count either.** -/
theorem UpToOrder.mergeOver?_right (h : UpToOrder v w) (hv : WellKeyed v) (hw : WellKeyed w) :
    UpToOrder (mergeOver? x v) (mergeOver? x w) := by
  intro p
  induction p generalizing v w x with
  | nil => simp only [down?, outline_mergeOver?, show v.map outline = w.map outline from h []]
  | cons k p ih =>
    obtain hopen | ⟨u, rfl, hu⟩ := isOpen_or_scalar v
    · simp only [down?, under?_mergeOver? hopen hv, under?_mergeOver? (h.isOpen hopen) hw]
      exact ih (fun p => h (k :: p)) (hv.under k) (hw.under k)
    · rw [h.eq_of_scalar hu]

end Value

/-! ## Merged maps -/

namespace Entries

/-- The maps are the same but for the order of keys. -/
def UpToOrder (es fs : Entries) : Prop := Value.UpToOrder (some (.map es)) (some (.map fs))

/-- Wherever the first and the last have a map, what is between them is one, if there is anything.
-/
def NoScalarBetween (a b c : Entries) : Prop :=
  Value.NoScalarBetween (some (.map a)) (some (.map b)) (some (.map c))

/-- Well-keyed entries make a well-keyed map. -/
theorem wellKeyed {es : Entries} (h : isWellKeyed es = true) :
    Value.WellKeyed (some (.map es)) := by
  intro v hv
  cases hv
  exact h

theorem UpToOrder.symm {es fs : Entries} (h : es.UpToOrder fs) : fs.UpToOrder es :=
  Value.UpToOrder.symm h

theorem UpToOrder.trans {es fs gs : Entries} (h : es.UpToOrder fs) (h' : fs.UpToOrder gs) :
    es.UpToOrder gs := Value.UpToOrder.trans h h'

/-- The order of keys in the lower map does not count. -/
theorem UpToOrder.deepMerge_base {es fs upper : Entries} (h : es.UpToOrder fs)
    (hupper : isWellKeyed upper = true) :
    (deepMerge es upper).UpToOrder (deepMerge fs upper) :=
  Value.UpToOrder.mergeOver?_left h (wellKeyed hupper)

/-- The order of keys in the upper map does not count. -/
theorem UpToOrder.deepMerge_upper {es fs : Entries} (h : es.UpToOrder fs)
    (hes : isWellKeyed es = true) (hfs : isWellKeyed fs = true) (base : Entries) :
    (deepMerge base es).UpToOrder (deepMerge base fs) :=
  Value.UpToOrder.mergeOver?_right (x := some (.map base)) h (wellKeyed hes) (wellKeyed hfs)

end Entries

end StagedLoad

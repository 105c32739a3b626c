import StagedLoad.Value

/-!
# Equality of data

Whether two values are the same, entry by entry and in order.  This tells more apart than
`Value.same`, which compares keys: the integer one and the truth value are different data.

* `Value.identical_iff` : identical values are equal.
-/

namespace StagedLoad

namespace Value

mutual

/-- Whether the values are the same data. -/
def identical : Value → Value → Bool
  | null, null => true
  | bool a, bool b => a == b
  | int m, int n => m == n
  | float x, float y => x == y
  | text s, text t => s == t
  | bytes s, bytes t => s == t
  | date c, date d => c == d
  | moment s, moment t => s == t
  | list xs, list ys => identicalAll xs ys
  | map es, map fs => identicalEntries es fs
  | knot cs m, knot ds n => identicalAll cs ds && m == n
  | _, _ => false

/-- Whether the lists hold the same data. -/
def identicalAll : List Value → List Value → Bool
  | [], [] => true
  | x :: xs, y :: ys => identical x y && identicalAll xs ys
  | _, _ => false

/-- Whether the entries are the same, in the same order. -/
def identicalEntries : List (Value × Value) → List (Value × Value) → Bool
  | [], [] => true
  | (k, v) :: es, (k', v') :: fs => identical k k' && identical v v' && identicalEntries es fs
  | _, _ => false

end

mutual

/-- Values that are found identical are equal. -/
theorem eq_of_identical : ∀ {v w : Value}, identical v w = true → v = w
  | null, w, h => by cases w <;> first | rfl | cases h
  | bool a, w, h => by
    cases w with
    | bool b => rw [eq_of_beq h]
    | _ => cases h
  | int m, w, h => by
    cases w with
    | int n => rw [eq_of_beq h]
    | _ => cases h
  | float x, w, h => by
    cases w with
    | float y => rw [eq_of_beq h]
    | _ => cases h
  | text s, w, h => by
    cases w with
    | text t => rw [eq_of_beq h]
    | _ => cases h
  | bytes s, w, h => by
    cases w with
    | bytes t => rw [eq_of_beq h]
    | _ => cases h
  | date c, w, h => by
    cases w with
    | date d => rw [eq_of_beq h]
    | _ => cases h
  | moment s, w, h => by
    cases w with
    | moment t => rw [eq_of_beq h]
    | _ => cases h
  | list xs, w, h => by
    cases w with
    | list ys => rw [eq_of_identicalAll h]
    | _ => cases h
  | map es, w, h => by
    cases w with
    | map fs => rw [eq_of_identicalEntries h]
    | _ => cases h
  | knot cs m, w, h => by
    cases w with
    | knot ds n =>
      obtain ⟨hcells, hn⟩ := Bool.and_eq_true_iff.mp h
      rw [eq_of_identicalAll hcells, eq_of_beq hn]
    | _ => cases h

theorem eq_of_identicalAll : ∀ {xs ys : List Value}, identicalAll xs ys = true → xs = ys
  | [], [], _ => rfl
  | x :: xs, y :: ys, h => by
    obtain ⟨hx, hxs⟩ := Bool.and_eq_true_iff.mp h
    rw [eq_of_identical hx, eq_of_identicalAll hxs]
  | [], _ :: _, h => nomatch h
  | _ :: _, [], h => nomatch h

theorem eq_of_identicalEntries :
    ∀ {es fs : List (Value × Value)}, identicalEntries es fs = true → es = fs
  | [], [], _ => rfl
  | (k, v) :: es, (k', v') :: fs, h => by
    obtain ⟨hentry, hes⟩ := Bool.and_eq_true_iff.mp h
    obtain ⟨hk, hv⟩ := Bool.and_eq_true_iff.mp hentry
    rw [eq_of_identical hk, eq_of_identical hv, eq_of_identicalEntries hes]
  | [], _ :: _, h => nomatch h
  | _ :: _, [], h => nomatch h

end

mutual

/-- A value is found identical to itself. -/
theorem identical_self : ∀ v : Value, identical v v = true
  | null => rfl
  | bool b => beq_self_eq_true b
  | int n => beq_self_eq_true n
  | float x => beq_self_eq_true x
  | text t => beq_self_eq_true t
  | bytes bs => beq_self_eq_true bs
  | date d => beq_self_eq_true d
  | moment t => beq_self_eq_true t
  | list xs => identicalAll_self xs
  | map es => identicalEntries_self es
  | knot cs n => Bool.and_eq_true_iff.mpr ⟨identicalAll_self cs, beq_self_eq_true n⟩

theorem identicalAll_self : ∀ xs : List Value, identicalAll xs xs = true
  | [] => rfl
  | x :: xs => Bool.and_eq_true_iff.mpr ⟨identical_self x, identicalAll_self xs⟩

theorem identicalEntries_self : ∀ es : List (Value × Value), identicalEntries es es = true
  | [] => rfl
  | (k, v) :: es => Bool.and_eq_true_iff.mpr
    ⟨Bool.and_eq_true_iff.mpr ⟨identical_self k, identical_self v⟩, identicalEntries_self es⟩

end

/-- **Equality of values is decided** by comparing them part by part. -/
theorem identical_iff {v w : Value} : identical v w = true ↔ v = w := by
  refine ⟨eq_of_identical, ?_⟩
  rintro rfl
  exact identical_self v

instance : DecidableEq Value := fun _ _ => decidable_of_iff _ identical_iff

end Value

end StagedLoad

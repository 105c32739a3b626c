import Mathlib.Algebra.Group.Nat.Defs
import StagedLoad.Value

/-!
# Equality of keys

A key of a map is found by whatever is equal to it, and numbers are compared across their kinds: the
integer one, the truth value true and the floating-point number one are a single key.  Keys can be
told by a form that all equal keys have, so their equality is symmetric and transitive, and what is
put under a key is found under every equal one.

* `Binary64.equals_of_toInt?` : floating-point numbers that are the same integer are equal.
* `Value.same_iff` : keys are the same if and only if they have the same form.
* `Entries.get?_put` : what is under a key after a value was put.
-/

namespace StagedLoad

/-! ## Numbers that are integers -/

namespace Binary64

/-- The magnitude in units of the smallest positive number. -/
def units (x : Binary64) : Nat :=
  if x.exponentField = 0 then x.fractionField
  else (2 ^ 52 + x.fractionField) * 2 ^ (x.exponentField - 1)

theorem fractionField_lt (x : Binary64) : x.fractionField < 2 ^ 52 := Nat.mod_lt _ (by decide)

/-- The exponent bounds the magnitude from both sides. -/
theorem units_bounds (x : Binary64) :
    x.units < 2 ^ 52 * 2 ^ x.exponentField ∧
      (x.exponentField ≠ 0 → 2 ^ 52 * 2 ^ (x.exponentField - 1) ≤ x.units) := by
  have hfraction := x.fractionField_lt
  unfold units
  split
  next h => exact ⟨by rw [h]; omega, fun hne => absurd h hne⟩
  next h =>
    obtain ⟨e, he⟩ := Nat.exists_eq_succ_of_ne_zero h
    have hdouble : 2 ^ e.succ = 2 ^ e * 2 := Nat.pow_succ 2 e
    have hupper : (2 ^ 52 + x.fractionField) * 2 ^ e < 2 ^ 53 * 2 ^ e :=
      Nat.mul_lt_mul_of_pos_right (by omega) (Nat.two_pow_pos e)
    rw [he, Nat.succ_sub_one, hdouble]
    exact ⟨by omega, fun _ => Nat.mul_le_mul_right _ (by omega)⟩

/-- Of two numbers with the same magnitude neither has the greater exponent. -/
theorem exponentField_le_of_units {x y : Binary64} (h : x.units = y.units) :
    x.exponentField ≤ y.exponentField := by
  refine Nat.le_of_not_lt fun hlt => ?_
  have hx := x.units_bounds.2 (by omega)
  have hy := y.units_bounds.1
  have hpow : 2 ^ 52 * 2 ^ y.exponentField ≤ 2 ^ 52 * 2 ^ (x.exponentField - 1) :=
    Nat.mul_le_mul_left _ (Nat.pow_le_pow_right (by decide) (Nat.le_sub_one_of_lt hlt))
  omega

/-- **The magnitude tells the fields**, since significands are normalised. -/
theorem fields_of_units {x y : Binary64} (h : x.units = y.units) :
    x.exponentField = y.exponentField ∧ x.fractionField = y.fractionField := by
  have hexponent : x.exponentField = y.exponentField :=
    Nat.le_antisymm (exponentField_le_of_units h) (exponentField_le_of_units h.symm)
  refine ⟨hexponent, ?_⟩
  unfold units at h
  rw [hexponent] at h
  split at h
  · exact h
  · exact Nat.add_left_cancel (Nat.eq_of_mul_eq_mul_right (Nat.two_pow_pos _) h)

/-- The bits are the sign bit and the fields. -/
theorem bits_eq_fields (x : Binary64) : x.bits.toNat =
    x.bits.toNat / 2 ^ 63 * 2 ^ 63 + x.exponentField * 2 ^ 52 + x.fractionField := by
  have hbits := x.bits.toNat_lt
  have hexponent : x.exponentField = x.bits.toNat / 2 ^ 52 % 2 ^ 11 := rfl
  have hfraction : x.fractionField = x.bits.toNat % 2 ^ 52 := rfl
  omega

/-- The magnitude of a finite number as units. -/
theorem units_of_magnitude? {x : Binary64} {m : Nat} {q : Int} (h : x.magnitude? = some (m, q)) :
    ∃ k : Nat, q = k - 1074 ∧ x.units = m * 2 ^ k := by
  unfold magnitude? at h
  unfold units
  split at h
  · cases h
  · split at h
    next hzero =>
      cases h
      exact ⟨0, rfl, by rw [if_pos hzero, Nat.pow_zero, Nat.mul_one]⟩
    next hzero =>
      cases h
      exact ⟨x.exponentField - 1, by omega, if_neg hzero⟩

/-- One is two to this, in units. -/
def unitExponent : Nat := 1074

/-- How many units make one. -/
def unitsOfOne : Nat := 2 ^ unitExponent

/-- A number that is an integer has as many units as this, and its sign. -/
theorem units_of_toInt? {x : Binary64} {n : Int} (h : x.toInt? = some n) :
    x.isNaN = false ∧ ∃ m : Nat, x.units = m * unitsOfOne ∧
      n = if x.isNegative then -(m : Int) else m := by
  unfold toInt? at h
  split at h
  · cases h
  next m q hmagnitude =>
    obtain ⟨k, hq, hunits⟩ := units_of_magnitude? hmagnitude
    obtain ⟨_, hcast, rfl⟩ := Option.map_eq_some_iff.mp h
    obtain ⟨i, hi, hcast⟩ := Option.bind_eq_some_iff.mp hcast
    obtain rfl := Option.some.inj hcast
    refine ⟨?_, i, ?_, rfl⟩
    · have hfinite : x.exponentField ≠ 2047 := by
        intro hspecial
        rw [magnitude?, if_pos hspecial] at hmagnitude
        cases hmagnitude
      simp [isNaN, hfinite]
    · rw [hunits]
      split at hi
      next hpos =>
        obtain rfl := Option.some.inj hi
        have hone : 2 ^ k = 2 ^ q.toNat * unitsOfOne := by
          have hk : k = q.toNat + unitExponent := by
            rw [unitExponent]
            omega
          rw [hk, Nat.pow_add, unitsOfOne]
        show m * 2 ^ k = m * 2 ^ q.toNat * unitsOfOne
        rw [hone, Nat.mul_assoc]
      next hneg =>
        split at hi
        next hexact =>
          obtain rfl := Option.some.inj hi
          have hone : 2 ^ (-q).toNat * 2 ^ k = unitsOfOne := by
            have hk : (-q).toNat + k = unitExponent := by
              rw [unitExponent]
              omega
            rw [← Nat.pow_add, hk, unitsOfOne]
          have hm : m / 2 ^ (-q).toNat * 2 ^ (-q).toNat = m :=
            Nat.div_mul_cancel (Nat.dvd_of_mod_eq_zero hexact)
          show m * 2 ^ k = m / 2 ^ (-q).toNat * unitsOfOne
          rw [← hone, ← Nat.mul_assoc, hm]
        next => cases hi

/-- The number of sign bits that are set. -/
theorem sign_eq (x : Binary64) : x.bits.toNat / 2 ^ 63 = if x.isNegative then 1 else 0 := by
  have hbits := x.bits.toNat_lt
  have hsign : x.isNegative = true ↔ x.bits.toNat / 2 ^ 63 = 1 := beq_iff_eq
  split
  next h => exact hsign.mp h
  next h =>
    have hne := mt hsign.mpr h
    omega

/-- Both fields of zero are zero. -/
theorem isZero_of_fields {x : Binary64} (hexponent : x.exponentField = 0)
    (hfraction : x.fractionField = 0) : x.isZero = true := by
  have hbits := x.bits_eq_fields
  show (x.bits.toNat % 2 ^ 63 == 0) = true
  rw [beq_iff_eq]
  omega

/-- **Numbers that are the same integer are equal**: they have the same bits, or both are zero. -/
theorem equals_of_toInt? {x y : Binary64} {n : Int} (hx : x.toInt? = some n)
    (hy : y.toInt? = some n) : x.equals y = true := by
  obtain ⟨hxnan, m, hxm, hxn⟩ := units_of_toInt? hx
  obtain ⟨hynan, m', hym, hyn⟩ := units_of_toInt? hy
  obtain rfl : m = m' := by
    rw [hxn] at hyn
    split at hyn <;> split at hyn <;> omega
  obtain ⟨hexponent, hfraction⟩ := fields_of_units (hxm.trans hym.symm)
  simp only [equals, hxnan, hynan, Bool.not_false, Bool.true_and, Bool.or_eq_true, beq_iff_eq,
    Bool.and_eq_true]
  by_cases hm : m = 0
  · have hunits : x.units = zero.units := by
      rw [hxm, hm, Nat.zero_mul]
      rfl
    obtain ⟨hexponent', hfraction'⟩ := fields_of_units hunits
    exact .inr ⟨isZero_of_fields hexponent' hfraction',
      isZero_of_fields (hexponent.symm.trans hexponent') (hfraction.symm.trans hfraction')⟩
  · have hsign : x.isNegative = y.isNegative := by
      rw [hxn] at hyn
      cases hxs : x.isNegative <;> cases hys : y.isNegative <;> simp [hxs, hys] at hyn ⊢ <;> omega
    refine .inl (UInt64.toNat_inj.mp ?_)
    rw [bits_eq_fields x, bits_eq_fields y, sign_eq, sign_eq, hsign, hexponent, hfraction]

/-- Zero is an integer, with either sign. -/
theorem toInt?_of_isZero {x : Binary64} (h : x.isZero = true) : x.toInt? = some 0 := by
  have hbits : x.bits.toNat % 2 ^ 63 = 0 := beq_iff_eq.mp h
  have hexponent : x.exponentField = 0 := by
    show x.bits.toNat / 2 ^ 52 % 2 ^ 11 = 0
    omega
  have hfraction : x.fractionField = 0 := by
    show x.bits.toNat % 2 ^ 52 = 0
    omega
  have hmagnitude : x.magnitude? = some (0, -1074) := by
    simp [magnitude?, hexponent, hfraction]
  have hneg : ¬ (0 : Int) ≤ -1074 := by decide
  simp only [toInt?, hmagnitude, if_neg hneg, Nat.zero_mod, Nat.zero_div, if_true]
  cases x.isNegative <;> rfl

/-- Numbers are equal if they are the same, or both zero. -/
theorem equals_cases {x y : Binary64} (h : x.equals y = true) :
    x = y ∨ x.isZero = true ∧ y.isZero = true := by
  simp only [equals, Bool.and_eq_true, Bool.or_eq_true, beq_iff_eq] at h
  refine h.2.imp_left fun hbits => ?_
  cases x
  cases y
  exact congrArg mk hbits

/-- Equal numbers are the same integer, if one of them is an integer. -/
theorem toInt?_of_equals {x y : Binary64} (h : x.equals y = true) : x.toInt? = y.toInt? := by
  obtain rfl | ⟨hx, hy⟩ := equals_cases h
  · rfl
  · rw [toInt?_of_isZero hx, toInt?_of_isZero hy]

/-- Equal numbers that are no integers have the same bits. -/
theorem eq_of_equals {x y : Binary64} (h : x.equals y = true) (hx : x.toInt? = none) : x = y := by
  obtain rfl | ⟨hzero, _⟩ := equals_cases h
  · rfl
  · rw [toInt?_of_isZero hzero] at hx
    cases hx

theorem equals_self {x : Binary64} (h : x.isNaN = false) : x.equals x = true := by
  simp [equals, h]

end Binary64

/-! ## Forms of keys -/

/-- What a key is known by: numbers of all kinds by the number, moments by the point in time. -/
inductive KeyForm where
  | null
  | integer (n : Int)
  | float (x : Binary64)
  | text (t : Text)
  | bytes (bs : List UInt8)
  | date (d : Date)
  | moment (hasOffset : Bool) (instant : Int)

namespace Value

/-- What the value is known by as a key; lists and maps are no keys. -/
def keyForm? : Value → Option KeyForm
  | null => some .null
  | bool b => some (.integer (if b then 1 else 0))
  | int n => some (.integer n)
  | float x => some ((x.toInt?.map .integer).getD (.float x))
  | text t => some (.text t)
  | bytes bs => some (.bytes bs)
  | date d => some (.date d)
  | moment t => some (.moment t.offset.isSome t.instant)
  | _ => none

/-- The values that have a form. -/
def HasForm (v : Value) : KeyForm → Prop
  | .null => v = null
  | .integer n => v.asInteger? = some n
  | .float x => v = float x ∧ x.toInt? = none
  | .text t => v = text t
  | .bytes bs => v = bytes bs
  | .date d => v = date d
  | .moment hasOffset instant =>
    ∃ t, v = moment t ∧ t.offset.isSome = hasOffset ∧ t.instant = instant

/-- A value has the form that it is known by. -/
theorem hasForm_of_keyForm? {v : Value} {form : KeyForm} (h : v.keyForm? = some form) :
    v.HasForm form := by
  cases v with
  | float x =>
    rw [keyForm?] at h
    cases hx : x.toInt? with
    | none =>
      rw [hx] at h
      cases h
      exact ⟨rfl, hx⟩
    | some n =>
      rw [hx] at h
      cases h
      exact hx
  | moment t =>
    cases h
    exact ⟨t, rfl, rfl, rfl⟩
  | list _ | map _ | knot _ _ => cases h
  | _ =>
    cases h
    rfl

/-- What is an integer is known by it. -/
theorem keyForm?_of_asInteger? {v : Value} {n : Int} (h : v.asInteger? = some n) :
    v.keyForm? = some (.integer n) := by
  cases v with
  | bool b =>
    cases h
    rfl
  | int m =>
    cases h
    rfl
  | float x =>
    have hx : x.toInt? = some n := h
    rw [keyForm?, hx]
    rfl
  | _ => cases h

/-- Floating-point numbers are the same if they are the same integer, or have the same bits. -/
theorem same_float_iff {x y : Binary64} :
    (float x).same (float y) = true ↔ (float x).keyForm? = (float y).keyForm? := by
  simp only [same, keyForm?, Bool.or_eq_true, Bool.and_eq_true, beq_iff_eq, Option.some.injEq]
  cases hx : x.toInt? with
  | none =>
    constructor
    · rintro (h | ⟨_, rfl⟩)
      · obtain rfl := Binary64.eq_of_equals h hx
        rw [hx]
      · rw [hx]
    · intro h
      cases hy : y.toInt? with
      | none =>
        rw [hy] at h
        cases h
        cases hnan : x.isNaN with
        | false => exact .inl (Binary64.equals_self hnan)
        | true => exact .inr ⟨rfl, rfl⟩
      | some n =>
        rw [hy] at h
        cases h
  | some n =>
    constructor
    · rintro (h | ⟨_, rfl⟩)
      · rw [← Binary64.toInt?_of_equals h, hx]
        rfl
      · rw [hx]
    · intro h
      cases hy : y.toInt? with
      | none =>
        rw [hy] at h
        cases h
      | some m =>
        rw [hy] at h
        cases h
        exact .inl (Binary64.equals_of_toInt? hx hy)

/-- **Keys are the same if and only if they have the same form.** -/
theorem same_iff {v w : Value} :
    v.same w = true ↔ v.keyForm?.isSome ∧ v.keyForm? = w.keyForm? := by
  unfold same
  split
  case h_1 => exact iff_of_true rfl ⟨rfl, rfl⟩
  case h_2 | h_3 | h_4 => simp [keyForm?]
  case h_5 => simp [keyForm?, Moment.equals]
  case h_6 x y => exact same_float_iff.trans (and_iff_right rfl).symm
  case h_7 hnull htext hbytes hdate hmoment hfloat =>
    constructor
    · intro h
      split at h
      next m n hm hn =>
        obtain rfl := eq_of_beq h
        rw [keyForm?_of_asInteger? hm, keyForm?_of_asInteger? hn]
        exact ⟨rfl, rfl⟩
      next => cases h
    · rintro ⟨hsome, hsame⟩
      -- what has the same form is of the same kind, unless it is an integer
      obtain ⟨form, hform⟩ := Option.isSome_iff_exists.mp hsome
      have hv := hasForm_of_keyForm? hform
      have hw := hasForm_of_keyForm? (hsame.symm.trans hform)
      cases form with
      | null => exact (hnull hv hw).elim
      | integer n =>
        have hv : v.asInteger? = some n := hv
        have hw : w.asInteger? = some n := hw
        rw [hv, hw]
        exact beq_self_eq_true n
      | float x => exact (hfloat _ _ hv.1 hw.1).elim
      | text t => exact (htext _ _ hv hw).elim
      | bytes bs => exact (hbytes _ _ hv hw).elim
      | date d => exact (hdate _ _ hv hw).elim
      | moment hasOffset instant =>
        obtain ⟨s, hs, _⟩ := hv
        obtain ⟨t, ht, _⟩ := hw
        exact (hmoment _ _ hs ht).elim

theorem same_symm {v w : Value} (h : v.same w = true) : w.same v = true := by
  obtain ⟨hsome, hsame⟩ := same_iff.mp h
  exact same_iff.mpr ⟨hsame ▸ hsome, hsame.symm⟩

/-- Keys that are equal to the same key are equal. -/
theorem same_trans {u v w : Value} (huv : u.same v = true) (hvw : v.same w = true) :
    u.same w = true := by
  obtain ⟨hsome, huv⟩ := same_iff.mp huv
  exact same_iff.mpr ⟨hsome, huv.trans (same_iff.mp hvw).2⟩

/-- What is the same as one of two equal keys is the same as the other. -/
theorem same_congr {k k' : Value} (h : k.same k' = true) (l : Value) : l.same k = l.same k' :=
  Bool.eq_iff_iff.mpr ⟨fun hl => same_trans hl h, fun hl => same_trans hl (same_symm h)⟩

/-- Equal keys are equal to the same keys. -/
theorem congr_same {k k' : Value} (h : k.same k' = true) (l : Value) : k.same l = k'.same l :=
  Bool.eq_iff_iff.mpr ⟨same_trans (same_symm h), same_trans h⟩

end Value

namespace Entries

/-- What is under a key is found by any equal one. -/
theorem get?_congr {k k' : Value} (h : k.same k' = true) (es : Entries) :
    get? k es = get? k' es := by
  induction es with
  | nil => rfl
  | cons e es ih =>
    obtain ⟨l, v⟩ := e
    rw [get?, get?, ih, Value.same_congr h]

/-- **What is under a key** after a value was put under this key, or another one. -/
theorem get?_put (k' k v : Value) (es : Entries) :
    get? k' (put k v es) = if k.same k' then some v else get? k' es := by
  induction es with
  | nil => rfl
  | cons e es ih =>
    obtain ⟨l, w⟩ := e
    by_cases hput : l.same k = true
    · rw [put, if_pos hput, get?, get?, Value.congr_same hput]
      split <;> rfl
    · rw [put, if_neg hput, get?, get?, ih]
      by_cases hl : l.same k' = true
      · have hk : ¬ k.same k' = true :=
          fun hk => hput (Value.same_trans hl (Value.same_symm hk))
        rw [if_pos hl, if_neg hk, if_pos hl]
      · rw [if_neg hl, if_neg hl]

end Entries

end StagedLoad

import Mathlib.Data.List.DropRight
import StagedLoad.Proofs.TableText
import StagedLoad.Settings.Check

/-!
# The target table of checked settings

The name of a table is checked as a whole: it must not be blank, and blanks around it are dropped.
It is split at its dots only when a statement needs the table.  What is behind the last qualifier is
never blank then, because the name ends with no blank, but it can be nothing at all.

* `TableRef.parse_front` : what is in front of the table in a dotted text.
* `TableRef.table_eq_nil_iff` : where nothing is left for the table.
* `checked_target_named` : which checked settings name a table.
-/

namespace StagedLoad

/-! ## Stripped texts -/

/-- A text that is not blank ends with no blank when it is stripped. -/
theorem getLast?_strip {t : Text} (h : isBlankText t = false) :
    ∃ x, (strip t).getLast? = some x ∧ x.isChar isBlank = false := by
  let p := Symbol.isChar isBlank
  have hne : (t.dropWhile p).rdropWhile p ≠ [] := by
    intro hnil
    have hall : ∀ x ∈ t.dropWhile p, p x := List.rdropWhile_eq_nil_iff.mp hnil
    have hfront : t.dropWhile p = [] :=
      List.dropWhile_idempotent p t ▸ List.dropWhile_eq_nil_iff.mpr hall
    have hblank : isBlankText t = true := List.all_eq_true.mpr (List.dropWhile_eq_nil_iff.mp hfront)
    rw [h] at hblank
    exact absurd hblank Bool.false_ne_true
  refine ⟨_, List.getLast?_eq_some_getLast hne, ?_⟩
  exact Bool.eq_false_iff.mpr (List.rdropWhile_last_not p _ hne)

/-! ## The table of a dotted text -/

namespace TableRef

/-- A text that ends with its first or its second dot: nothing is left for the table. -/
def EndsInQualifier (t : Text) : Prop :=
  t.getLast? = some (.char '.') ∧ t.count (.char '.') ≤ 2

instance (t : Text) : Decidable (EndsInQualifier t) := inferInstanceAs (Decidable (_ ∧ _))

/-- **What is in front of the table** ends with a dot unless it is empty, and holds two of them if
the table holds any. -/
theorem parse_front (t : Text) :
    ∃ front, t = front ++ (parse t).table ∧
      (front = [] ∨ front.getLast? = some (.char '.')) ∧ front.count (.char '.') ≤ 2 ∧
      (.char '.' ∈ (parse t).table → front.count (.char '.') = 2) := by
  have hnone {part : Text} (hpart : part ∈ partsOf (.char '.') t) : part.count (.char '.') = 0 :=
    List.count_eq_zero.mpr (not_mem_of_mem_partsOf hpart)
  have ht := Text.join_partsOf t
  rcases h : partsOf (.char '.') t with _ | ⟨first, _ | ⟨second, _ | ⟨third, rest⟩⟩⟩ <;>
    rw [h] at ht hnone
  · exact absurd h (partsOf_ne_nil _ _)
  · have hdotFree : .char '.' ∉ first := List.count_eq_zero.mp (hnone (by simp))
    have htable : t = (make first none none).table := by
      simpa [Text.join_singleton, make] using ht.symm
    rw [parse_of_one h]
    exact ⟨[], htable, .inl rfl, Nat.zero_le 2, fun hdot => absurd hdot hdotFree⟩
  · have hfirst : first.count (.char '.') = 0 := hnone (by simp)
    have hdotFree : .char '.' ∉ second := List.count_eq_zero.mp (hnone (by simp))
    rw [parse_of_two h]
    refine ⟨first ++ [.char '.'], ?_, .inr List.getLast?_concat, ?_,
      fun hdot => absurd hdot hdotFree⟩
    · simpa [Text.join_dot_cons, Text.join_singleton, make] using ht.symm
    · simp [hfirst]
  · have hfirst : first.count (.char '.') = 0 := hnone (by simp)
    have hsecond : second.count (.char '.') = 0 := hnone (by simp)
    let front : Text := (first ++ .char '.' :: second) ++ [.char '.']
    have htwo : front.count (.char '.') = 2 := by
      simp [front, hfirst, hsecond]
    rw [parse_of_more h]
    refine ⟨front, ?_, .inr List.getLast?_concat, Nat.le_of_eq htwo, fun _ => htwo⟩
    simpa [front, Text.join_dot_cons, make] using ht.symm

/-- **Where nothing is left for the table.** -/
theorem table_eq_nil_iff {t : Text} (ht : t ≠ []) : (parse t).table = [] ↔ EndsInQualifier t := by
  obtain ⟨front, hsplit, hfront, hcount, hdots⟩ := parse_front t
  constructor
  · intro htable
    rw [htable, List.append_nil] at hsplit
    subst hsplit
    exact ⟨hfront.resolve_left ht, hcount⟩
  · rintro ⟨hlast, hfew⟩
    by_contra htable
    -- a table that is there ends with the last dot, so it is behind two others
    rw [hsplit, List.getLast?_append_of_ne_nil _ htable] at hlast
    have hdot := List.mem_of_getLast? hlast
    rw [hsplit, List.count_append, hdots hdot] at hfew
    have hmore := List.count_pos_iff.mpr hdot
    omega

/-- The table that a text names ends like the text. -/
theorem isBlankText_table {t : Text} {x : Symbol} (hlast : t.getLast? = some x)
    (hx : x.isChar isBlank = false) (htable : (parse t).table ≠ []) :
    isBlankText (parse t).table = false := by
  obtain ⟨front, hsplit, _⟩ := parse_front t
  rw [hsplit, List.getLast?_append_of_ne_nil _ htable] at hlast
  exact List.all_eq_false.mpr ⟨x, List.mem_of_getLast? hlast, by simp [hx]⟩

/-- Qualifiers are never empty. -/
theorem forall_parts_ne_nil_iff {r : TableRef} : (∀ name ∈ r.parts, name ≠ []) ↔ r.table ≠ [] := by
  obtain ⟨table, schema, database⟩ := r
  cases schema <;> cases database <;> simp [parts, Qualifier.text_ne]

end TableRef

/-! ## Checked settings -/

/-- Data of settings with a server, a database and a target table. -/
def targetData (table : Text) : Value := .map [
  (.text "connection", .map [(.text "server", .text "srv"), (.text "database", .text "dw")]),
  (.text "table", .text table)]

/-- The name of a table in checked settings ends with no blank. -/
theorem checkTable_ends {v : Value} {t : Text} (h : checkTable v = .ok t) :
    ∃ x, t.getLast? = some x ∧ x.isChar isBlank = false := by
  rw [checkTable, Checked.andThen_eq_ok] at h
  obtain ⟨raw, _, hchecked⟩ := h
  cases hblank : isBlankText raw with
  | true =>
    rw [hblank] at hchecked
    cases hchecked
  | false =>
    rw [hblank] at hchecked
    cases hchecked
    exact getLast?_strip hblank

/-- The name of the target table in checked settings ends with no blank. -/
theorem checkOutput_table_ends {v : Value} {s : OutputSettings} (h : checkOutput v = .ok s) :
    ∃ x, s.table.getLast? = some x ∧ x.isChar isBlank = false := by
  obtain ⟨es, _, _, htable, _⟩ := checkOutput_eq_ok.mp h
  obtain ⟨w, _, hchecked⟩ := required_eq_ok.mp htable
  exact checkTable_ends hchecked

/-- **Which checked settings name a table.**  If the name in the settings ends with its first or its
second dot, the target table is nameless; otherwise neither the table nor a qualifier of it is
empty, and the table is not blank. -/
theorem checked_target_named {v : Value} {s : OutputSettings} (h : checkOutput v = .ok s) :
    (TableRef.EndsInQualifier s.table → s.target.table = []) ∧
      (¬ TableRef.EndsInQualifier s.table →
        (∀ name ∈ s.target.parts, name ≠ []) ∧ isBlankText s.target.table = false) := by
  obtain ⟨x, hlast, hx⟩ := checkOutput_table_ends h
  have hne : s.table ≠ [] := List.ne_nil_of_mem (List.mem_of_getLast? hlast)
  have hempty : s.target.table = [] ↔ TableRef.EndsInQualifier s.table :=
    TableRef.table_eq_nil_iff hne
  refine ⟨hempty.mpr, fun hends => ?_⟩
  have htable : s.target.table ≠ [] := mt hempty.mp hends
  exact ⟨TableRef.forall_parts_ne_nil_iff.mpr htable, TableRef.isBlankText_table hlast hx htable⟩

/-- Blanks inside a name stay, and so do the dots of a table behind two qualifiers. -/
theorem dots_behind_qualifiers_named :
    let s : OutputSettings :=
      { connection := { server := "srv", database := "dw" }, table := "dw. .orders." }
    checkOutput (targetData " dw. .orders.\n") = .ok s ∧ ¬ TableRef.EndsInQualifier s.table ∧
      ((∀ name ∈ s.target.parts, name ≠ []) ∧ isBlankText s.target.table = false) := by
  intro s
  have hchecked : checkOutput (targetData " dw. .orders.\n") = .ok s := rfl
  have hends : ¬ TableRef.EndsInQualifier s.table := by decide
  exact ⟨hchecked, hends, (checked_target_named hchecked).2 hends⟩

/-- A name that is nothing but a schema and a dot passes the check, and names no table. -/
theorem qualifier_alone_passes :
    ¬ ∀ (v : Value) (s : OutputSettings), checkOutput v = .ok s →
      s.target.table ≠ [] ∧ isBlankText s.target.table = false := by
  intro hall
  let s : OutputSettings :=
    { connection := { server := "srv", database := "dw" }, table := "dbo." }
  have hchecked : checkOutput (targetData "dbo.") = .ok s := rfl
  exact (hall _ s hchecked).1 (by decide)

end StagedLoad

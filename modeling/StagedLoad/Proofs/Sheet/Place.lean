import Mathlib.Data.List.TakeWhile
import StagedLoad.Yaml.Cursor

/-!
# Places on a line

Skipping the characters of one line keeps the line; all but byte order marks take a column each.
What is left of the text is counted down.

* `Cursor.skip_line` : the place behind characters of one line.
* `Cursor.IsAt.next_line` : the place behind the end of a line.
-/

namespace StagedLoad.Yaml

namespace Cursor

variable {c : Cursor} {cs tail : List Char} {column : Nat}

/-- The place is in front of the text and in the column, and what is left is counted right. -/
structure IsAt (c : Cursor) (cs : List Char) (n : Nat) : Prop where
  rest : c.rest = cs
  column : c.column = n
  left : c.left = cs.length

/-- One character of a line. -/
theorem next_of_not_break {x : Char} (hc : c.rest = x :: tail) (hx : isBreak x = false) :
    c.next.rest = tail ∧ c.next.index = c.index + 1 ∧ c.next.line = c.line ∧
      c.next.column = (if x == '\uFEFF' then c.column else c.column + 1) ∧
      c.next.left = c.left - 1 := by
  unfold next
  rw [hc]
  simp only [hx, Bool.false_and, Bool.false_eq_true, if_false]
  split <;> simp

/-- Characters are skipped part by part. -/
theorem skip_add (m n : Nat) (c : Cursor) : c.skip (m + n) = (c.skip m).skip n := by
  induction m generalizing c with
  | zero => rw [Nat.zero_add, skip]
  | succ m ih => rw [Nat.succ_add, skip, skip, ih]

/-- Skipping characters of one line, which take a column each unless they are byte order marks. -/
theorem skip_line (hc : c.rest = cs ++ tail) (hcs : ∀ x ∈ cs, isBreak x = false) :
    (c.skip cs.length).rest = tail ∧ (c.skip cs.length).index = c.index + cs.length ∧
      (c.skip cs.length).line = c.line ∧ (c.skip cs.length).left = c.left - cs.length ∧
      c.column ≤ (c.skip cs.length).column ∧
      ((∀ x ∈ cs, x ≠ '\uFEFF') → (c.skip cs.length).column = c.column + cs.length) := by
  induction cs generalizing c with
  | nil => exact ⟨hc, rfl, rfl, rfl, Nat.le_refl _, fun _ => rfl⟩
  | cons x cs ih =>
    obtain ⟨hx, hcs⟩ := List.forall_mem_cons.mp hcs
    obtain ⟨hrest, hindex, hline, hcolumn, hleft⟩ := next_of_not_break hc hx
    obtain ⟨hrest', hindex', hline', hleft', hright, hexact⟩ := ih hrest hcs
    rw [List.length_cons, skip]
    refine ⟨hrest', by omega, hline'.trans hline, by omega, ?_, ?_⟩
    · have hstep : c.column ≤ c.next.column := by
        rw [hcolumn]
        split <;> omega
      exact hstep.trans hright
    · intro hmark
      obtain ⟨hxmark, hmark⟩ := List.forall_mem_cons.mp hmark
      rw [hexact hmark, hcolumn, if_neg (by simpa using hxmark)]
      omega

/-- The place behind characters of one line is somewhere further to the right. -/
theorem IsAt.skip_line (hc : c.IsAt (cs ++ tail) column) (hcs : ∀ x ∈ cs, isBreak x = false) :
    (c.skip cs.length).IsAt tail (c.skip cs.length).column ∧
      column ≤ (c.skip cs.length).column ∧ c.index ≤ (c.skip cs.length).index := by
  obtain ⟨hrest, hindex, _, hleft, hcolumn, _⟩ := Cursor.skip_line hc.rest hcs
  refine ⟨⟨hrest, rfl, ?_⟩, hc.column ▸ hcolumn, by omega⟩
  rw [hleft, hc.left, List.length_append]
  omega

/-- Skipping characters that take a column each. -/
theorem IsAt.skip (hc : c.IsAt (cs ++ tail) column)
    (hcs : ∀ x ∈ cs, isBreak x = false ∧ x ≠ '\uFEFF') :
    (c.skip cs.length).IsAt tail (column + cs.length) := by
  obtain ⟨hrest, _, _, _, _, hcolumn⟩ := Cursor.skip_line hc.rest fun x hx => (hcs x hx).1
  obtain ⟨⟨_, _, hleft⟩, _⟩ := hc.skip_line fun x hx => (hcs x hx).1
  refine ⟨hrest, ?_, hleft⟩
  rw [hcolumn fun x hx => (hcs x hx).2, hc.column]

/-- Skipping spaces. -/
theorem skip_spaces {n : Nat} (hc : c.rest = List.replicate n ' ' ++ tail) :
    (c.skip n).rest = tail ∧ (c.skip n).index = c.index + n ∧ (c.skip n).line = c.line ∧
      (c.skip n).left = c.left - n ∧ (c.skip n).column = c.column + n := by
  have hspaces : ∀ x ∈ List.replicate n ' ', isBreak x = false ∧ x ≠ '\uFEFF' := by
    intro x hx
    rw [List.eq_of_mem_replicate hx]
    decide
  have hskip := skip_line hc fun x hx => (hspaces x hx).1
  rw [List.length_replicate] at hskip
  obtain ⟨hrest, hindex, hline, hleft, _, hcolumn⟩ := hskip
  exact ⟨hrest, hindex, hline, hleft, hcolumn fun x hx => (hspaces x hx).2⟩

/-- Spaces take a column each. -/
theorem IsAt.skip_spaces {n : Nat} (hc : c.IsAt (List.replicate n ' ' ++ tail) column) :
    (c.skip n).IsAt tail (column + n) := by
  obtain ⟨hrest, _, _, hleft, hcolumn⟩ := Cursor.skip_spaces hc.rest
  refine ⟨hrest, hcolumn.trans (by rw [hc.column]), ?_⟩
  rw [hleft, hc.left, List.length_append, List.length_replicate]
  omega

/-- Behind a line feed a line begins. -/
theorem IsAt.next_line (hc : c.IsAt ('\n' :: tail) column) : c.next.IsAt tail 0 := by
  unfold next
  rw [hc.rest]
  exact ⟨rfl, rfl, by rw [hc.left]; rfl⟩

theorem lineBreak_of_not_break (hc : c.rest.head?.any isBreak = false) :
    c.lineBreak = ([], c) := by
  unfold lineBreak
  split
  · next rest hrest =>
    rw [hrest] at hc
    cases hc
  · next x rest _ hrest =>
    have hx : isBreak x = false := by simpa [hrest] using hc
    have hseparator : (x == '\u2028' || x == '\u2029') = false := by
      simp only [isBreak, Bool.or_eq_false_iff] at hx ⊢
      exact ⟨hx.1.2, hx.2⟩
    simp only [hseparator, hx, Bool.false_eq_true, if_false]
  · rfl

/-- The marks between documents begin with a hyphen or a dot. -/
theorem atSeparator_of_head (hyphen : c.rest.head? ≠ some '-') (dot : c.rest.head? ≠ some '.') :
    c.atSeparator = false := by
  unfold atSeparator
  split
  · next rest hrest => exact absurd (by rw [hrest]; rfl) hyphen
  · next rest hrest => exact absurd (by rw [hrest]; rfl) dot
  · rfl

/-- All spaces up to something else are taken. -/
theorem span_spaces {n : Nat} (hc : c.rest = List.replicate n ' ' ++ tail)
    (htail : tail.head? ≠ some ' ') : c.span (· == ' ') = (List.replicate n ' ', c.skip n) := by
  have htaken : c.rest.takeWhile (· == ' ') = List.replicate n ' ' := by
    rw [hc, List.takeWhile_append_of_pos (fun x hx => by simp [List.eq_of_mem_replicate hx])]
    cases tail with
    | nil => simp
    | cons x tail =>
      have hx : (x == ' ') = false := by simpa using htail
      rw [List.takeWhile_cons, hx]
      simp
  simp only [span, htaken, List.length_replicate]

end Cursor

end StagedLoad.Yaml

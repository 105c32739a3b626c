/-!
# Parts of lists

A list, such as a text, is cut at every occurrence of a mark.  There is always one part more than
there are marks.

* `joined_partsOf` : the parts with the mark between them are the list.
* `not_mem_of_mem_partsOf` : no part holds the mark.
* `partsOf_append_mark` : the first part ends at the first mark.
-/

namespace StagedLoad

variable {α : Type}

/-- The parts with the mark between them. -/
def joined (mark : α) : List (List α) → List α
  | [] => []
  | [part] => part
  | part :: parts => part ++ mark :: joined mark parts

variable [DecidableEq α]

/-- The parts of a list between the marks. -/
def partsOf (mark : α) : List α → List (List α)
  | [] => [[]]
  | c :: cs =>
    match partsOf mark cs with
    | [] => [[c]]
    | part :: parts => if c = mark then [] :: part :: parts else (c :: part) :: parts

/-- There is at least one part. -/
theorem partsOf_ne_nil (mark : α) (cs : List α) : partsOf mark cs ≠ [] := by
  cases cs with
  | nil => simp [partsOf]
  | cons c cs =>
    simp only [partsOf]
    split
    · simp
    · split <;> simp

/-- The parts with the mark between them make up the whole. -/
theorem joined_partsOf (mark : α) (cs : List α) : joined mark (partsOf mark cs) = cs := by
  induction cs with
  | nil => rfl
  | cons c cs ih =>
    simp only [partsOf]
    split
    · rename_i h
      exact absurd h (partsOf_ne_nil mark cs)
    · rename_i part parts h
      rw [h] at ih
      split
      · rename_i hc
        rw [joined, ih, hc]
        · rfl
        · simp
      · cases parts with
        | nil => simpa [joined] using ih
        | cons p ps => simpa [joined] using ih

/-- What stands before the first mark is the beginning of the first part. -/
theorem partsOf_append {mark : α} {part rest first : List α} {parts : List (List α)}
    (h : mark ∉ part) (hrest : partsOf mark rest = first :: parts) :
    partsOf mark (part ++ rest) = (part ++ first) :: parts := by
  induction part with
  | nil => exact hrest
  | cons c part ih =>
    obtain ⟨hc, hpart⟩ := not_or.mp (mt List.mem_cons.mpr h)
    rw [List.cons_append, partsOf, ih hpart]
    exact if_neg (Ne.symm hc)

/-- A list without the mark is its only part. -/
theorem partsOf_of_notMem {mark : α} {cs : List α} (h : mark ∉ cs) : partsOf mark cs = [cs] := by
  have hparts : partsOf mark (cs ++ []) = [cs ++ []] := partsOf_append h rfl
  rw [List.append_nil] at hparts
  exact hparts

/-- What is before the first mark is the first part. -/
theorem partsOf_append_mark {mark : α} {part : List α} (h : mark ∉ part) (rest : List α) :
    partsOf mark (part ++ mark :: rest) = part :: partsOf mark rest := by
  have hmark : partsOf mark (mark :: rest) = [] :: partsOf mark rest := by
    rw [partsOf]
    cases hrest : partsOf mark rest with
    | nil => exact absurd hrest (partsOf_ne_nil mark rest)
    | cons next parts => exact if_pos rfl
  rw [partsOf_append h hmark, List.append_nil]

/-- No part holds the mark. -/
theorem not_mem_of_mem_partsOf {mark : α} {cs part : List α} (h : part ∈ partsOf mark cs) :
    mark ∉ part := by
  induction cs generalizing part with
  | nil =>
    simp only [partsOf, List.mem_singleton] at h
    simp [h]
  | cons c cs ih =>
    simp only [partsOf] at h
    split at h
    · rename_i hn
      exact absurd hn (partsOf_ne_nil mark cs)
    · rename_i first rest hp
      rw [hp] at ih
      split at h
      · rcases List.mem_cons.1 h with rfl | h
        · simp
        · exact ih h
      · rename_i hc
        rcases List.mem_cons.1 h with rfl | h
        · simp only [List.mem_cons, not_or]
          exact ⟨fun hm => hc hm.symm, ih (List.mem_cons_self ..)⟩
        · exact ih (List.mem_cons_of_mem _ h)

end StagedLoad

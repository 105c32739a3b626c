import StagedLoad.Text

/-!
# Finding and replacing text

Occurrences are looked for from the left and do not overlap: after a match the search goes on
behind it.

* `occursIn_iff` : a pattern occurs in a text if it is a part of it.
* `infix_of_infix_replaceList` : replacing makes no new occurrence of what holds neither end of the
  replacement.
* `not_infix_replaceList` : nor does it leave one of such a pattern.
-/

namespace StagedLoad

/-- What does not hold a symbol occurs on one side of it. -/
theorem infix_of_infix_append_cons {α : Type} {s xs ys : List α} {c : α} (hc : c ∉ s)
    (h : s <:+: xs ++ c :: ys) : s <:+: xs ∨ s <:+: ys := by
  have hstart : ∀ {t : List α}, c ∉ t → t <+: c :: ys → t = [] := by
    intro t ht hpre
    rcases List.prefix_cons_iff.mp hpre with rfl | ⟨t, rfl, _⟩
    · rfl
    · exact absurd List.mem_cons_self ht
  rcases List.infix_append_iff.mp h with h | h | ⟨t, u, rfl, ht, hu⟩
  · exact .inl h
  · rcases List.infix_cons_iff.mp h with h | h
    · rw [hstart hc h]
      exact .inl List.nil_infix
    · exact .inr h
  · rw [List.mem_append, not_or] at hc
    rw [hstart hc.2 hu, List.append_nil]
    exact .inl ht.isInfix

/-- What holds neither end of the replacement occurs behind one only if it occurs inside of it or
behind. -/
theorem infix_of_infix_ends {α : Type} {s inner rest : List α} {first last : α}
    (hfirst : first ∉ s) (hlast : last ∉ s)
    (h : s <:+: first :: (inner ++ [last]) ++ rest) : s <:+: inner ∨ s <:+: rest := by
  rw [List.cons_append, List.append_assoc, ← List.nil_append (first :: _)] at h
  rcases infix_of_infix_append_cons hfirst h with h | h
  · rw [List.infix_nil.mp h]
    exact .inl List.nil_infix
  · exact infix_of_infix_append_cons hlast h

variable {α : Type} [DecidableEq α]

/-- What follows the pattern in the text, if the text starts with it. -/
def afterPattern : List α → List α → Option (List α)
  | [], cs => some cs
  | _ :: _, [] => none
  | p :: ps, c :: cs => if p = c then afterPattern ps cs else none

/-- Whether the pattern occurs somewhere in the text. -/
def occursIn (pattern : List α) : List α → Bool
  | [] => pattern.isEmpty
  | c :: cs => (afterPattern pattern (c :: cs)).isSome || occursIn pattern cs

/-- What is left behind a pattern makes up the whole with it. -/
theorem afterPattern_eq_some {pattern cs rest : List α} :
    afterPattern pattern cs = some rest ↔ cs = pattern ++ rest := by
  induction pattern generalizing cs with
  | nil => simp [afterPattern]
  | cons p ps ih =>
    cases cs with
    | nil => simp [afterPattern]
    | cons c cs =>
      simp only [afterPattern, List.cons_append, List.cons.injEq]
      by_cases h : p = c
      · simp [h, ih]
      · simp [h, Ne.symm h]

theorem isSome_afterPattern {pattern cs : List α} :
    (afterPattern pattern cs).isSome = true ↔ pattern <+: cs := by
  rw [Option.isSome_iff_exists]
  constructor
  · rintro ⟨rest, hrest⟩
    exact ⟨rest, (afterPattern_eq_some.mp hrest).symm⟩
  · rintro ⟨rest, hrest⟩
    exact ⟨rest, afterPattern_eq_some.mpr hrest.symm⟩

/-- Nothing is left exactly if the list does not begin with the pattern. -/
theorem afterPattern_eq_none {pattern cs : List α} :
    afterPattern pattern cs = none ↔ ¬ pattern <+: cs := by
  rw [← isSome_afterPattern, Option.not_isSome_iff_eq_none]

/-- A pattern occurs in a text if it is a part of it. -/
theorem occursIn_iff {pattern cs : List α} : occursIn pattern cs = true ↔ pattern <:+: cs := by
  induction cs with
  | nil => simp [occursIn]
  | cons c cs ih =>
    rw [occursIn, Bool.or_eq_true, isSome_afterPattern, ih, List.infix_cons_iff]

/-- What follows the pattern is no longer than the text. -/
theorem length_of_afterPattern {pattern cs rest : List α}
    (h : afterPattern pattern cs = some rest) : rest.length + pattern.length = cs.length := by
  rw [afterPattern_eq_some.mp h, List.length_append]
  exact Nat.add_comm _ _

/-- The text with each leftmost, non-overlapping occurrence of the pattern `p :: ps` replaced. -/
def replaceList (p : α) (ps replacement : List α) : List α → List α
  | [] => []
  | c :: cs =>
    match _h : afterPattern (p :: ps) (c :: cs) with
    | some rest => replacement ++ replaceList p ps replacement rest
    | none => c :: replaceList p ps replacement cs
termination_by cs => cs.length
decreasing_by
  · have := length_of_afterPattern _h
    simp only [List.length_cons] at this ⊢
    omega
  · simp

section

variable {p c : α} {ps cs replacement : List α}

/-- Where the pattern is, the replacement is put, and the search goes on behind. -/
theorem replaceList_of_match (rest : List α) :
    replaceList p ps replacement (p :: (ps ++ rest)) =
      replacement ++ replaceList p ps replacement rest := by
  have h : afterPattern (p :: ps) (p :: (ps ++ rest)) = some rest := afterPattern_eq_some.mpr rfl
  rw [replaceList]
  split
  · next rest' h' =>
    cases h.symm.trans h'
    rfl
  · next h' => cases h.symm.trans h'

/-- Where the pattern is not, the search goes on with the next member. -/
theorem replaceList_of_no_match (h : ¬ p :: ps <+: c :: cs) :
    replaceList p ps replacement (c :: cs) = c :: replaceList p ps replacement cs := by
  rw [replaceList]
  split
  · next h' => cases (afterPattern_eq_none.mpr h).symm.trans h'
  · rfl

/-- A text without the pattern stays as it is. -/
theorem replaceList_of_not_infix (h : ¬ p :: ps <:+: cs) :
    replaceList p ps replacement cs = cs := by
  induction cs with
  | nil => rw [replaceList]
  | cons c cs ih =>
    rw [List.infix_cons_iff, not_or] at h
    rw [replaceList_of_no_match h.1, ih h.2]

end

section

variable {p : α} {ps s : List α} {first last : α} {inner : List α}

/-- What does not hold the first symbol of the replacement is at the beginning of the result only if
it is at the beginning of the text. -/
theorem prefix_of_prefix_replaceList (hfirst : first ∉ s) {cs : List α}
    (h : s <+: replaceList p ps (first :: inner) cs) : s <+: cs := by
  induction cs generalizing s with
  | nil => rwa [replaceList] at h
  | cons c cs ih =>
    by_cases hmatch : p :: ps <+: c :: cs
    · obtain ⟨rest, hrest⟩ := hmatch
      rw [← hrest, List.cons_append, replaceList_of_match, List.cons_append] at h
      rcases List.prefix_cons_iff.mp h with rfl | ⟨t, rfl, _⟩
      · exact List.nil_prefix
      · exact absurd List.mem_cons_self hfirst
    · rw [replaceList_of_no_match hmatch] at h
      rcases List.prefix_cons_iff.mp h with rfl | ⟨t, rfl, ht⟩
      · exact List.nil_prefix
      · have htail := ih (fun hmem => hfirst (List.mem_cons_of_mem _ hmem)) ht
        exact (List.prefix_cons_inj c).mpr htail

/-- **No occurrence is made by replacing.**  What holds neither end of the replacement occurs in the
result only if it occurs inside of the replacement or in the text. -/
theorem infix_of_infix_replaceList (hfirst : first ∉ s) (hlast : last ∉ s) {cs : List α}
    (h : s <:+: replaceList p ps (first :: (inner ++ [last])) cs) : s <:+: inner ∨ s <:+: cs := by
  fun_induction replaceList p ps (first :: (inner ++ [last])) cs with
  | case1 => exact .inr h
  | case2 c cs rest hrest ih =>
    rcases infix_of_infix_ends hfirst hlast h with h | h
    · exact .inl h
    · rw [afterPattern_eq_some.mp hrest]
      exact (ih h).imp_right fun hbehind => hbehind.trans (List.suffix_append _ _).isInfix
  | case3 c cs hnone ih =>
    rcases List.infix_cons_iff.mp h with h | h
    · rw [← replaceList_of_no_match (afterPattern_eq_none.mp hnone)] at h
      exact .inr (prefix_of_prefix_replaceList hfirst h).isInfix
    · exact (ih h).imp_right fun hbehind => List.infix_cons_iff.mpr (.inr hbehind)

/-- **The pattern itself is gone**, unless it has an end of the replacement or is inside of it. -/
theorem not_infix_replaceList (hfirst : first ∉ p :: ps) (hlast : last ∉ p :: ps)
    (hinner : ¬ p :: ps <:+: inner) (cs : List α) :
    ¬ p :: ps <:+: replaceList p ps (first :: (inner ++ [last])) cs := by
  fun_induction replaceList p ps (first :: (inner ++ [last])) cs with
  | case1 => simp
  | case2 c cs rest hrest ih =>
    intro h
    rcases infix_of_infix_ends hfirst hlast h with h | h
    · exact hinner h
    · exact ih h
  | case3 c cs hnone ih =>
    intro h
    have hnot := afterPattern_eq_none.mp hnone
    rcases List.infix_cons_iff.mp h with h | h
    · rw [← replaceList_of_no_match hnot] at h
      exact hnot (prefix_of_prefix_replaceList hfirst h)
    · exact ih h

end

/-- Whether `part` is a part of `t`. -/
def hasPart (t part : Text) : Bool := occursIn part t

/-- A part of a text is found exactly if it is one. -/
theorem hasPart_iff {t part : Text} : hasPart t part = true ↔ part <:+: t := occursIn_iff

theorem hasPart_eq_false {t part : Text} : hasPart t part = false ↔ ¬ part <:+: t := by
  rw [← hasPart_iff, Bool.not_eq_true]

/-- The text with every occurrence of `part` replaced; an empty `part` changes nothing. -/
def replacePart (t part replacement : Text) : Text :=
  match part with
  | [] => t
  | p :: ps => replaceList p ps replacement t

end StagedLoad

import StagedLoad.Proofs.Reading

/-!
# Variables are filled in once

A text is read from the left in pieces, while what a reference is can be said of any place of the
text: a dollar sign, braces, and a name between them.  Both come to the same.  No reference begins
inside another one, for nothing behind its dollar sign is a dollar sign, so the references that are
found are all that there are, and the text is literals with references between them in one way only.
What a variable holds takes the place of its references and is not looked at again.

* `Template.Splits.pieces_eq` : the pieces of a text are the only way to split it.
* `Template.fill_pieces` : what the pieces of a template stand for.
* `fill_is_one_pass` : filling in replaces every reference, or fails for the first that is not set.
-/

namespace StagedLoad

/-! ## References -/

/-- A reference to a variable: a name that is not empty, with `env:` before it or without. -/
structure Reference where
  marked : Bool
  name : Text
  name_ne : name ≠ []
  name_chars : ∀ s ∈ name, s.isChar isVariableChar = true

namespace Reference

/-- What is behind the dollar sign. -/
def body (r : Reference) : Text :=
  .char '\x7b' :: ((if r.marked then Text.ofString "env:" else []) ++ r.name ++ [.char '\x7d'])

/-- The reference as it is written. -/
def written (r : Reference) : Text := .char '$' :: r.body

/-- The reference as a piece of a text. -/
def piece (r : Reference) : Piece := .reference r.marked r.name

theorem written_piece (r : Reference) : r.piece.written = r.written := by
  simp only [piece, Piece.written, written, body, List.append_assoc]
  rfl

/-- Different references are different pieces. -/
theorem piece_inj {r r' : Reference} (h : r.piece = r'.piece) : r = r' := by
  obtain ⟨marked, name, _, _⟩ := r
  obtain ⟨marked', name', _, _⟩ := r'
  obtain ⟨rfl, rfl⟩ := Piece.reference.inj h
  rfl

/-- Behind its dollar sign a reference has none. -/
theorem dollar_not_mem_body (r : Reference) : .char '$' ∉ r.body := by
  have hname : .char '$' ∉ r.name := by
    intro hmem
    exact absurd (r.name_chars _ hmem) (by decide)
  have hmark : .char '$' ∉ (if r.marked then Text.ofString "env:" else []) := by
    cases r.marked <;> decide
  simp only [body, List.mem_cons, List.mem_append, not_or]
  exact ⟨by decide, ⟨hmark, hname⟩, by decide, List.not_mem_nil⟩

/-- The reference is written at the place of the text. -/
def OccursAt (r : Reference) (text : Text) (i : Nat) : Prop := r.written <+: text.drop i

end Reference

/-! ## Finding one reference -/

/-- A name in front of its closing brace. -/
theorem closedName?_append {name rest : Text} (hne : name ≠ [])
    (hchars : ∀ s ∈ name, s.isChar isVariableChar = true) :
    closedName? (name ++ .char '\x7d' :: rest) = some (name, rest) := by
  have htaken : (name ++ .char '\x7d' :: rest).takeWhile (Symbol.isChar isVariableChar) = name := by
    rw [List.takeWhile_append_of_pos hchars]
    exact List.append_nil name
  have hempty : name.isEmpty = false := List.isEmpty_eq_false_iff.mpr hne
  simp only [closedName?, htaken, List.drop_left, hempty]
  rfl

/-- What is found as a name is one. -/
theorem named_of_closedName? {t name rest : Text} (h : closedName? t = some (name, rest)) :
    name ≠ [] ∧ ∀ s ∈ name, s.isChar isVariableChar = true := by
  simp only [closedName?] at h
  split at h
  · split at h
    · cases h
    · next hempty =>
      cases h
      have hall := List.all_takeWhile (p := Symbol.isChar isVariableChar) (l := t)
      exact ⟨fun hnil => hempty (List.isEmpty_iff.mpr hnil), List.all_eq_true.mp hall⟩
  · cases h

/-- **A reference is found where it is written**, whatever is behind it. -/
theorem pieceAt_reference (r : Reference) (rest : Text) :
    pieceAt (.char '$') (r.body ++ rest) = (r.piece, rest) := by
  obtain ⟨marked, name, hne, hchars⟩ := r
  have hfound : closedName? (name ++ .char '\x7d' :: rest) = some (name, rest) :=
    closedName?_append hne hchars
  cases marked with
  | true =>
    have hbody : (Reference.mk true name hne hchars).body ++ rest =
        .char '\x7b' :: .char 'e' :: .char 'n' :: .char 'v' :: .char ':' ::
          (name ++ .char '\x7d' :: rest) := by
      simp [Reference.body, Text.ofString, Text.ofChars]
    rw [hbody]
    simp only [pieceAt, hfound]
    rfl
  | false =>
    have hbody : (Reference.mk false name hne hchars).body ++ rest =
        .char '\x7b' :: (name ++ .char '\x7d' :: rest) := by
      simp [Reference.body]
    rw [hbody]
    simp only [pieceAt]
    split
    · next name' rest' hmarked =>
      split at hmarked
      · next t heq =>
        -- a name that goes on with a colon is not closed
        have hnone : closedName? (.char 'e' :: .char 'n' :: .char 'v' :: .char ':' :: t) = none :=
          rfl
        rw [← heq, hfound] at hnone
        cases hnone
      · cases hmarked
    · next name' rest' _ hplain =>
      cases hfound.symm.trans hplain
      rfl
    · next hnone =>
      cases hfound.symm.trans hnone

/-- The piece at the beginning of a text is the reference that is written there, or else its first
symbol. -/
theorem pieceAt_cases (s : Symbol) (t : Text) :
    (∃ r : Reference, ∃ rest, s :: t = r.written ++ rest ∧ pieceAt s t = (r.piece, rest)) ∨
      (∀ r : Reference, ¬ r.written <+: s :: t) ∧ pieceAt s t = (.symbol s, t) := by
  have hwritten := pieceAt_written s t
  rcases hpiece : pieceAt s t with ⟨p, rest⟩
  rw [hpiece] at hwritten
  cases p with
  | symbol s' =>
    obtain ⟨rfl, rfl⟩ : s' = s ∧ rest = t := List.cons.inj hwritten
    refine .inr ⟨?_, rfl⟩
    rintro r ⟨behind, hbehind⟩
    obtain ⟨rfl, rfl⟩ : .char '$' = s' ∧ r.body ++ behind = rest := List.cons.inj hbehind
    rw [pieceAt_reference] at hpiece
    cases hpiece
  | reference marked name =>
    have hnamed : name ≠ [] ∧ ∀ s ∈ name, s.isChar isVariableChar = true := by
      unfold pieceAt at hpiece
      split at hpiece
      · dsimp only at hpiece
        split at hpiece
        · next hmarked =>
          cases hpiece
          split at hmarked
          · exact named_of_closedName? hmarked
          · cases hmarked
        · next hplain =>
          cases hpiece
          exact named_of_closedName? hplain
        · cases hpiece
      · cases hpiece
    let r : Reference := ⟨marked, name, hnamed.1, hnamed.2⟩
    refine .inl ⟨r, rest, ?_, rfl⟩
    rw [← r.written_piece]
    exact hwritten.symm

namespace Reference

variable {r r' : Reference} {t : Text} {s : Symbol} {i : Nat}

/-- At one place there is one reference at most: its name ends at the first brace. -/
theorem eq_of_prefix (h : r.written <+: t) (h' : r'.written <+: t) : r = r' := by
  obtain ⟨rest, rfl⟩ := h
  obtain ⟨rest', hrest'⟩ := h'
  have hbody : r'.body ++ rest' = r.body ++ rest := (List.cons.inj hrest').2
  have hpiece := pieceAt_reference r' rest'
  rw [hbody, pieceAt_reference] at hpiece
  exact piece_inj (Prod.mk.inj hpiece).1

theorem occursAt_succ : r.OccursAt (s :: t) (i + 1) ↔ r.OccursAt t i := Iff.rfl

/-- Behind a reference, the text goes on as if it began there. -/
theorem occursAt_behind (r' : Reference) :
    r.OccursAt (r'.written ++ t) (r'.written.length + i) ↔ r.OccursAt t i := by
  rw [OccursAt, OccursAt, ← List.drop_drop, List.drop_left]

/-- **No reference begins inside another one.** -/
theorem occursAt_inside (hi : i < r'.written.length) :
    r.OccursAt (r'.written ++ t) i ↔ i = 0 ∧ r = r' := by
  constructor
  · intro h
    cases i with
    | zero => exact ⟨rfl, eq_of_prefix h (List.prefix_append _ _)⟩
    | succ i =>
      have hi : i < r'.body.length := by simpa [written] using hi
      have hdrop : (r'.written ++ t).drop (i + 1) = r'.body[i] :: (r'.body.drop (i + 1) ++ t) := by
        show (r'.body ++ t).drop i = _
        rw [List.drop_append_of_le_length (Nat.le_of_lt hi), List.drop_eq_getElem_cons hi,
          List.cons_append]
      rw [OccursAt, hdrop] at h
      have hdollar : .char '$' = r'.body[i] := (List.cons_prefix_cons.mp h).1
      exact absurd (hdollar ▸ List.getElem_mem hi) r'.dollar_not_mem_body
  · rintro ⟨rfl, rfl⟩
    exact List.prefix_append _ _

end Reference

/-- A reference to a variable that is set stands for what the variable holds. -/
theorem Piece.fill_piece {vars : Variables} {r : Reference} {held : Text}
    (h : vars.lookup r.name = some held) (ps : List Piece) :
    Piece.fill vars (r.piece :: ps) = (Piece.fill vars ps).map (held ++ ·) := by
  rw [Reference.piece, Piece.fill, h]

/-- A reference to a variable that is not set stops the filling. -/
theorem Piece.fill_piece_of_unset {vars : Variables} {r : Reference}
    (h : vars.lookup r.name = none) (ps : List Piece) :
    Piece.fill vars (r.piece :: ps) = .error r.name := by
  rw [Reference.piece, Piece.fill, h]

/-! ## Templates -/

/-- Literals with references between them: the first literal, and each reference with the literal
behind it. -/
structure Template where
  lead : Text
  rest : List (Reference × Text)

namespace Template

/-- The text of the template, with a text for each reference. -/
def fill (value : Reference → Text) (d : Template) : Text :=
  d.lead ++ d.rest.flatMap fun part => value part.1 ++ part.2

/-- The references from left to right. -/
def references (d : Template) : List Reference := d.rest.map Prod.fst

/-- The reference stands behind this many symbols of the written template. -/
def HasAt (d : Template) (r : Reference) (i : Nat) : Prop :=
  ∃ before literal after, d.rest = before ++ (r, literal) :: after ∧
    i = (fill Reference.written ⟨d.lead, before⟩).length

/-- The template is the text, and its references are all that occur in the text. -/
structure Splits (d : Template) (text : Text) : Prop where
  written : d.fill Reference.written = text
  occurrences : ∀ r i, r.OccursAt text i ↔ d.HasAt r i

/-- The pieces of the template. -/
def pieces (d : Template) : List Piece :=
  d.lead.map .symbol ++ d.rest.flatMap fun part => part.1.piece :: part.2.map .symbol

variable {d : Template} {s : Symbol} {lead literal t text : Text} {rest : List (Reference × Text)}
  {r r' : Reference} {i : Nat}

/-- No reference stands where a literal begins. -/
theorem hasAt_zero_of_lead : ¬ HasAt ⟨s :: lead, rest⟩ r 0 := by
  rintro ⟨before, literal, after, _, hzero⟩
  cases hzero

/-- Behind the first symbol of the literal all references stand one place nearer. -/
theorem hasAt_succ : HasAt ⟨s :: lead, rest⟩ r (i + 1) ↔ HasAt ⟨lead, rest⟩ r i := by
  simp only [HasAt, fill, List.cons_append, List.length_cons, Nat.add_right_cancel_iff]

/-- Only the first reference stands before the end of the first reference. -/
theorem hasAt_inside (hi : i < r'.written.length) :
    HasAt ⟨[], (r', literal) :: rest⟩ r i ↔ i = 0 ∧ r = r' := by
  constructor
  · rintro ⟨before, literal', after, hrest, rfl⟩
    cases before with
    | nil =>
      obtain ⟨hfirst, _⟩ := List.cons.inj hrest
      exact ⟨rfl, (Prod.mk.inj hfirst).1.symm⟩
    | cons part before =>
      obtain ⟨rfl, _⟩ := List.cons.inj hrest
      simp only [fill, List.flatMap_cons, List.nil_append, List.length_append] at hi
      omega
  · rintro ⟨rfl, rfl⟩
    exact ⟨[], literal, rest, rfl, rfl⟩

/-- Behind the first reference all others stand nearer by its length. -/
theorem hasAt_behind :
    HasAt ⟨[], (r', literal) :: rest⟩ r (r'.written.length + i) ↔ HasAt ⟨literal, rest⟩ r i := by
  constructor
  · rintro ⟨before, literal', after, hrest, hi⟩
    cases before with
    | nil =>
      have hpos : 0 < r'.written.length := Nat.succ_pos _
      have hzero : r'.written.length + i = 0 := hi
      omega
    | cons part before =>
      obtain ⟨rfl, rfl⟩ := List.cons.inj hrest
      refine ⟨before, literal', after, rfl, ?_⟩
      simp only [fill, List.flatMap_cons, List.nil_append, List.length_append] at hi ⊢
      omega
  · rintro ⟨before, literal', after, rfl, rfl⟩
    refine ⟨(r', literal) :: before, literal', after, rfl, ?_⟩
    simp only [fill, List.flatMap_cons, List.nil_append, List.length_append]
    omega

/-- The first reference is filled in, and then what is behind it. -/
theorem fill_reference {value : Reference → Text} :
    fill value ⟨[], (r, literal) :: rest⟩ = value r ++ fill value ⟨literal, rest⟩ := by
  simp [fill]

theorem pieces_symbol : pieces ⟨s :: lead, rest⟩ = .symbol s :: pieces ⟨lead, rest⟩ := rfl

theorem pieces_reference :
    pieces ⟨[], (r, literal) :: rest⟩ = r.piece :: pieces ⟨literal, rest⟩ := rfl

/-- Templates symbol by symbol and reference by reference. -/
@[elab_as_elim]
theorem byParts {P : Template → Prop} (nil : P ⟨[], []⟩)
    (symbol : ∀ s lead rest, P ⟨lead, rest⟩ → P ⟨s :: lead, rest⟩)
    (reference : ∀ r literal rest, P ⟨literal, rest⟩ → P ⟨[], (r, literal) :: rest⟩)
    (d : Template) : P d := by
  obtain ⟨lead, rest⟩ := d
  have hlead {rest} (h : P ⟨[], rest⟩) (lead : Text) : P ⟨lead, rest⟩ := by
    induction lead with
    | nil => exact h
    | cons s lead ih => exact symbol s lead rest ih
  induction rest generalizing lead with
  | nil => exact hlead nil lead
  | cons part rest ih => exact hlead (reference part.1 part.2 rest (ih part.2)) lead

/-- A symbol belongs to a literal if no reference is written from there on. -/
theorem splits_symbol : Splits ⟨s :: lead, rest⟩ (s :: t) ↔
    (∀ r : Reference, ¬ r.written <+: s :: t) ∧ Splits ⟨lead, rest⟩ t := by
  constructor
  · intro h
    refine ⟨fun r hr => hasAt_zero_of_lead ((h.occurrences r 0).mp hr), ?_, ?_⟩
    · exact (List.cons.inj h.written).2
    · intro r i
      rw [← Reference.occursAt_succ (s := s), h.occurrences, hasAt_succ]
  · rintro ⟨hnone, h⟩
    refine ⟨congrArg (s :: ·) h.written, ?_⟩
    intro r i
    cases i with
    | zero => exact iff_of_false (hnone r) hasAt_zero_of_lead
    | succ i => rw [Reference.occursAt_succ, h.occurrences, hasAt_succ]

/-- A reference that is written is one of the template. -/
theorem splits_reference : Splits ⟨[], (r', literal) :: rest⟩ (r'.written ++ t) ↔
    Splits ⟨literal, rest⟩ t := by
  constructor
  · intro h
    refine ⟨List.append_cancel_left (fill_reference.symm.trans h.written), ?_⟩
    intro r i
    rw [← Reference.occursAt_behind r', h.occurrences, hasAt_behind]
  · intro h
    refine ⟨fill_reference.trans (congrArg (r'.written ++ ·) h.written), ?_⟩
    intro r i
    by_cases hi : i < r'.written.length
    · rw [Reference.occursAt_inside hi, hasAt_inside hi]
    · obtain ⟨k, rfl⟩ := Nat.exists_eq_add_of_le (Nat.le_of_not_lt hi)
      rw [Reference.occursAt_behind, h.occurrences, hasAt_behind]

theorem splits_nil : Splits ⟨[], []⟩ [] := by
  refine ⟨rfl, ?_⟩
  intro r i
  refine iff_of_false ?_ ?_
  · rw [Reference.OccursAt, List.drop_nil, List.prefix_nil]
    exact List.cons_ne_nil _ _
  · rintro ⟨before, literal, after, hrest, _⟩
    exact absurd hrest.symm (List.append_ne_nil_of_right_ne_nil _ (List.cons_ne_nil _ _))

/-- A symbol at which no reference begins is a piece. -/
theorem piecesOf_symbol (hnone : ∀ r : Reference, ¬ r.written <+: s :: t) :
    piecesOf (s :: t) = .symbol s :: piecesOf t := by
  rcases pieceAt_cases s t with ⟨r, rest, hwritten, _⟩ | ⟨_, hpiece⟩
  · exact absurd (hwritten ▸ List.prefix_append _ _) (hnone r)
  · rw [piecesOf, hpiece]

/-- A reference at the beginning is the first piece. -/
theorem piecesOf_reference : piecesOf (r.written ++ t) = r.piece :: piecesOf t := by
  rw [Reference.written, List.cons_append, piecesOf, pieceAt_reference]

/-- Some template has the pieces of the text and splits it. -/
theorem exists_splits (text : Text) :
    ∃ d : Template, d.pieces = piecesOf text ∧ d.Splits text := by
  fun_induction piecesOf text with
  | case1 => exact ⟨⟨[], []⟩, rfl, splits_nil⟩
  | case2 s t ih =>
    obtain ⟨⟨lead, rest⟩, hpieces, hsplits⟩ := ih
    rcases pieceAt_cases s t with ⟨r, behind, hwritten, hpiece⟩ | ⟨hnone, hpiece⟩
    · rw [hpiece] at hpieces hsplits ⊢
      refine ⟨⟨[], (r, lead) :: rest⟩, congrArg (r.piece :: ·) hpieces, ?_⟩
      rw [hwritten]
      exact splits_reference.mpr hsplits
    · rw [hpiece] at hpieces hsplits ⊢
      exact ⟨⟨s :: lead, rest⟩, congrArg (Piece.symbol s :: ·) hpieces,
        splits_symbol.mpr ⟨hnone, hsplits⟩⟩

/-- A template that splits the text has its pieces. -/
theorem Splits.pieces_eq (h : d.Splits text) : d.pieces = piecesOf text := by
  induction d using byParts generalizing text with
  | nil =>
    obtain rfl : [] = text := h.written
    rw [piecesOf]
    rfl
  | symbol s lead rest ih =>
    obtain rfl : s :: fill Reference.written ⟨lead, rest⟩ = text := h.written
    obtain ⟨hnone, htail⟩ := splits_symbol.mp h
    rw [piecesOf_symbol hnone, ← ih htail, pieces_symbol]
  | reference r literal rest ih =>
    obtain rfl := fill_reference.symm.trans h.written
    rw [piecesOf_reference, ← ih (splits_reference.mp h), pieces_reference]

/-- Different templates have different pieces, for a reference is no symbol: a text is split in one
way only. -/
theorem pieces_inj {d' : Template} (h : d.pieces = d'.pieces) : d = d' := by
  induction d using byParts generalizing d' with
  | nil =>
    induction d' using byParts with
    | nil => rfl
    | symbol => cases h
    | reference => cases h
  | symbol s lead rest ih =>
    induction d' using byParts with
    | nil => cases h
    | symbol s' lead' rest' =>
      rw [pieces_symbol, pieces_symbol] at h
      obtain ⟨hsymbol, htail⟩ := List.cons.inj h
      cases hsymbol
      cases ih htail
      rfl
    | reference => cases (List.cons.inj h).1
  | reference r literal rest ih =>
    induction d' using byParts with
    | nil => cases h
    | symbol => cases (List.cons.inj h).1
    | reference r' literal' rest' =>
      rw [pieces_reference, pieces_reference] at h
      obtain ⟨hpiece, htail⟩ := List.cons.inj h
      cases Reference.piece_inj hpiece
      cases ih htail
      rfl

/-! ## What a template stands for -/

variable {vars vars' : Variables} {value : Reference → Text}

/-- Every reference is replaced if all of them are set. -/
theorem fill_pieces (h : ∀ r ∈ d.references, vars.lookup r.name = some (value r)) :
    Piece.fill vars d.pieces = .ok (d.fill value) := by
  induction d using byParts with
  | nil => rfl
  | symbol s lead rest ih =>
    rw [pieces_symbol, Piece.fill, ih h]
    rfl
  | reference r literal rest ih =>
    obtain ⟨hr, hrest⟩ := List.forall_mem_cons.mp h
    rw [pieces_reference, Piece.fill_piece hr, ih hrest, fill_reference]
    rfl

/-- The first reference that is not set is told. -/
theorem fill_pieces_of_unset {before after : List Reference} {r : Reference}
    (hreferences : d.references = before ++ r :: after)
    (hset : ∀ x ∈ before, (vars.lookup x.name).isSome) (hunset : vars.lookup r.name = none) :
    Piece.fill vars d.pieces = .error r.name := by
  induction d using byParts generalizing before with
  | nil =>
    exact absurd hreferences.symm (List.append_ne_nil_of_right_ne_nil _ (List.cons_ne_nil _ _))
  | symbol s lead rest ih =>
    rw [pieces_symbol, Piece.fill, ih hreferences hset]
    rfl
  | reference first literal rest ih =>
    cases before with
    | nil =>
      obtain ⟨rfl, _⟩ := List.cons.inj hreferences
      rw [pieces_reference, Piece.fill_piece_of_unset hunset]
    | cons x before =>
      obtain ⟨rfl, hrest⟩ := List.cons.inj hreferences
      obtain ⟨hx, hset⟩ := List.forall_mem_cons.mp hset
      obtain ⟨held, hheld⟩ := Option.isSome_iff_exists.mp hx
      rw [pieces_reference, Piece.fill_piece hheld, ih hrest hset]
      rfl

/-- Other variables than those that are referred to do not count. -/
theorem fill_pieces_congr
    (h : ∀ r ∈ d.references, vars'.lookup r.name = vars.lookup r.name) :
    Piece.fill vars' d.pieces = Piece.fill vars d.pieces := by
  induction d using byParts with
  | nil => rfl
  | symbol s lead rest ih =>
    rw [pieces_symbol, Piece.fill, Piece.fill, ih h]
  | reference r literal rest ih =>
    obtain ⟨hr, hrest⟩ := List.forall_mem_cons.mp h
    rw [pieces_reference]
    cases hlookup : vars.lookup r.name with
    | none => rw [Piece.fill_piece_of_unset hlookup, Piece.fill_piece_of_unset (hr.trans hlookup)]
    | some held =>
      rw [Piece.fill_piece hlookup, Piece.fill_piece (hr.trans hlookup), ih hrest]

end Template

/-! ## Texts without references -/

/-- No reference begins in the text, whatever is behind it. -/
inductive IsQuiet : Text → Prop
  | nil : IsQuiet []
  | cons {s : Symbol} {t : Text} (hs : ∀ (r : Reference) (tail : Text),
      ¬ r.written <+: s :: (t ++ tail)) (ht : IsQuiet t) : IsQuiet (s :: t)

/-- Two quiet texts are quiet together. -/
theorem IsQuiet.append {t t' : Text} (h : IsQuiet t) (h' : IsQuiet t') : IsQuiet (t ++ t') := by
  induction h with
  | nil => exact h'
  | @cons s t hs ht ih =>
    refine .cons ?_ ih
    intro r tail
    show ¬ r.written <+: s :: (t ++ t' ++ tail)
    rw [List.append_assoc]
    exact hs r (t' ++ tail)

/-- Without a dollar sign there is no reference. -/
theorem isQuiet_of_no_dollar {t : Text} (h : ∀ s ∈ t, s ≠ .char '$') : IsQuiet t := by
  induction t with
  | nil => exact .nil
  | cons s t ih =>
    obtain ⟨hs, ht⟩ := List.forall_mem_cons.mp h
    exact .cons (fun r tail hr => hs (List.cons_prefix_cons.mp hr).1.symm) (ih ht)

/-- A reference stays on its line. -/
theorem Reference.feed_not_mem_written (r : Reference) : .char '\n' ∉ r.written := by
  have hname : .char '\n' ∉ r.name := by
    intro hmem
    exact absurd (r.name_chars _ hmem) (by decide)
  have hmark : .char '\n' ∉ (if r.marked then Text.ofString "env:" else []) := by
    cases r.marked <;> decide
  simp only [written, body, List.mem_cons, List.mem_append, not_or]
  exact ⟨by decide, by decide, ⟨hmark, hname⟩, by decide, List.not_mem_nil⟩

/-- No reference goes on over the end of a line. -/
theorem Reference.prefix_of_prefix_line {r : Reference} {t tail : Text}
    (h : r.written <+: t ++ .char '\n' :: tail) : r.written <+: t := by
  have hline : t ++ [.char '\n'] <+: t ++ .char '\n' :: tail :=
    (List.prefix_append_right_inj t).mpr (List.prefix_append [_] tail)
  have hfeed := r.feed_not_mem_written
  rcases List.prefix_or_prefix_of_prefix h hline with hr | hr
  · rcases List.prefix_concat_iff.mp hr with heq | hr
    · exact absurd (by simp [heq]) hfeed
    · exact hr
  · exact absurd (hr.subset (by simp)) hfeed

/-- A line without references is quiet in front of the next line. -/
theorem isQuiet_line {t behind : Text} (ht : ∀ r : Reference, ¬ r.written <:+: t)
    (hbehind : IsQuiet behind) (hfeed : behind.head? = some (.char '\n')) :
    IsQuiet (t ++ behind) := by
  obtain ⟨tail, rfl⟩ := List.head?_eq_some_iff.mp hfeed
  induction t with
  | nil => exact hbehind
  | cons s t ih =>
    refine .cons ?_ (ih fun r hr => ht r (hr.trans (List.suffix_cons s t).isInfix))
    intro r more hr
    have hline : r.written <+: (s :: t) ++ .char '\n' :: (tail ++ more) := by
      rw [← List.cons_append, ← List.append_assoc]
      exact hr
    exact ht r (Reference.prefix_of_prefix_line hline).isInfix

namespace Template

/-- Without references in the literals, the references are those of the template. -/
theorem piecesOf_fill {d : Template} (hlead : IsQuiet d.lead)
    (hrest : ∀ part ∈ d.rest, IsQuiet part.2) : piecesOf (d.fill Reference.written) = d.pieces := by
  induction d using byParts with
  | nil =>
    show piecesOf [] = []
    rw [piecesOf]
  | symbol s lead rest ih =>
    obtain - | ⟨hs, hlead⟩ := hlead
    have hnone : ∀ r : Reference, ¬ r.written <+: s :: fill Reference.written ⟨lead, rest⟩ :=
      fun r => hs r _
    show piecesOf (s :: fill Reference.written ⟨lead, rest⟩) = _
    rw [piecesOf_symbol hnone, ih hlead hrest, pieces_symbol]
  | reference r literal rest ih =>
    obtain ⟨hliteral, hrest⟩ := List.forall_mem_cons.mp hrest
    rw [fill_reference, piecesOf_reference, ih hliteral hrest, pieces_reference]

end Template

/-! ## Filling in -/

section

variable {vars : Variables} {text filled name : Text} (path : FilePath) (j : Journal)

/-- A text that can be filled in is read without a message. -/
theorem Reading.runWith_fill (h : substitute vars text = .ok filled) :
    (Reading.fill vars path.value text).runWith j = (.ok filled, j) := by
  unfold Reading.fill
  rw [h]
  rfl

/-- A variable that is not set is logged and told. -/
theorem Reading.runWith_fill_of_unset (h : substitute vars text = .error name) :
    (Reading.fill vars path.value text).runWith j =
      (.error (.variableMissing name), j.log .error "Missing required environment variable"
        [("variable", .text name), ("file", path.value)]) := by
  let context : Context := [("variable", .text name), ("file", path.value)]
  have hshort : (context.any fun e => e.2.hasLongInteger) = false := by
    have hname : (Value.text name).hasLongInteger = false := rfl
    simp only [context, List.any_cons, List.any_nil, hname, path.hasLongInteger_value,
      Bool.or_false]
  unfold Reading.fill Reading.runWith
  rw [h]
  show ((say .error "Missing required environment variable" context >>= fun _ =>
    throw (.variableMissing name) : Reading Text) { journal := j }).map id Progress.journal = _
  simp only [Reading.say, bind_apply, hshort, Bool.and_false]
  rfl

end

/-- **Variables are filled in once.**  A text is literals with references between them, which are
all references that occur in it, and this in one way only.  If all of them are set, each is replaced
by what its variable holds, as it is; otherwise the first one that is not set is logged and told.
Variables without a reference do not count. -/
theorem fill_is_one_pass (text : Text) :
    ∃ d : Template, d.Splits text ∧ (∀ d' : Template, d'.Splits text → d' = d) ∧
      ∀ (vars : Variables) (path : FilePath) (j : Journal),
        let outcome := (Reading.fill vars path.value text).runWith j
        (∀ value, (∀ r ∈ d.references, vars.lookup r.name = some (value r)) →
          outcome = (.ok (d.fill value), j)) ∧
        (∀ before r after, d.references = before ++ r :: after →
          (∀ x ∈ before, (vars.lookup x.name).isSome) → vars.lookup r.name = none →
          outcome = (.error (.variableMissing r.name),
            j.log .error "Missing required environment variable"
              [("variable", .text r.name), ("file", path.value)])) ∧
        ∀ vars', (∀ r ∈ d.references, vars'.lookup r.name = vars.lookup r.name) →
          (Reading.fill vars' path.value text).runWith j = outcome := by
  obtain ⟨d, hpieces, hsplits⟩ := Template.exists_splits text
  have hsubstitute (vars : Variables) : substitute vars text = Piece.fill vars d.pieces := by
    rw [substitute, hpieces]
  refine ⟨d, hsplits, fun d' h => Template.pieces_inj (h.pieces_eq.trans hpieces.symm), ?_⟩
  intro vars path j outcome
  refine ⟨?_, ?_, ?_⟩
  · intro value hset
    have hfilled := (hsubstitute vars).trans (Template.fill_pieces hset)
    exact Reading.runWith_fill path j hfilled
  · intro before r after hreferences hset hunset
    have hfilled := (hsubstitute vars).trans
      (Template.fill_pieces_of_unset hreferences hset hunset)
    exact Reading.runWith_fill_of_unset path j hfilled
  · intro vars' hsame
    have hfilled : substitute vars' text = substitute vars text := by
      rw [hsubstitute, hsubstitute, Template.fill_pieces_congr hsame]
    unfold outcome Reading.fill
    rw [hfilled]

/-- A reference inside of another form is found, forms that are not closed or have no name are
literal, and what a variable holds is not looked at again. -/
example : substitute [("A", "$\x7bB\x7d")] "$\x7b$\x7bA\x7d\x7d $\x7benv:\x7d $\x7bA" =
    .ok "$\x7b$\x7bB\x7d\x7d $\x7benv:\x7d $\x7bA" := by
  decide +kernel

end StagedLoad

import Mathlib.Data.List.Chain
import StagedLoad.Proofs.Sheet.Place
import StagedLoad.Yaml.Node.Resolve
import StagedLoad.Yaml.Token.Stream

/-!
# Plain scalars on one line

A text is inline if nothing in it could end a plain scalar: it stays on its line, has no tab, no
comment and no mark of a value.  Spaces between its words belong to it.  Wherever such a text is
read as a plain scalar, it is read to its end, and what is behind it decides where the reading goes
on.  Every text that begins like a plain scalar and stays on its line begins with an inline one.

* `plainRest_inline` : an inline text is read as it is.
* `exists_inline` : what a text of one line is read as.
-/

namespace StagedLoad.Yaml

/-! ## Inline texts -/

/-- The characters of keys. -/
def isKeyChar (c : Char) : Bool := c.isAlphanum || c == '_'

theorem ne_of_isKeyChar {x y : Char} (hx : isKeyChar x = true) (hy : isKeyChar y = false) :
    x ≠ y := by
  rintro rfl
  rw [hx] at hy
  cases hy

theorem isGap_of_isKeyChar {x : Char} (hx : isKeyChar x = true) : isGap x = false := by
  simp only [isGap, isBreak, Bool.or_eq_false_iff, beq_eq_false_iff_ne]
  refine ⟨⟨?_, ?_⟩, ⟨⟨⟨?_, ?_⟩, ?_⟩, ?_⟩, ?_⟩ <;> exact ne_of_isKeyChar hx rfl

/-- Whether the second character can go on behind the first one: behind a space a hash begins a
comment, and a colon before a space is the mark of a value. -/
def goesOn (x y : Char) : Bool := !(x == ' ' && y == '#') && !(x == ':' && y == ' ')

/-- Nothing in the text could end a plain scalar. -/
structure IsInline (cs : List Char) : Prop where
  ne_nil : cs ≠ []
  oneLine : ∀ x ∈ cs, x ≠ '\t' ∧ isBreak x = false
  begins : cs.head? ≠ some ' ' ∧ cs.head? ≠ some '#'
  ends : cs.getLast? ≠ some ' '
  goesOn : cs.IsChain fun x y => goesOn x y = true

/-- The text can be written as a plain scalar of one line. -/
structure IsPlain (cs : List Char) : Prop extends IsInline cs where
  plain : ∃ x rest, cs = x :: rest ∧ Scan.beginsPlain false x rest = true
  noMark : cs.getLast? ≠ some ':'

/-- A key without spaces, which is no scalar of another type and short enough to be told from a
text. -/
structure IsKey (cs : List Char) : Prop where
  ne_nil : cs ≠ []
  chars : ∀ x ∈ cs, isKeyChar x = true
  short : cs.length ≤ 1024
  isText : resolve (.ofChars cs) = .text

section

variable {cs run tail : List Char}

/-- A word is inline, unless it is a comment. -/
theorem isInline_word (hne : cs ≠ []) (hgap : ∀ x ∈ cs, isGap x = false)
    (hcomment : cs.head? ≠ some '#') : IsInline cs where
  ne_nil := hne
  oneLine x hx := by
    have hx := hgap x hx
    simp only [isGap, Bool.or_eq_false_iff, beq_eq_false_iff_ne] at hx
    exact ⟨hx.1.2, hx.2⟩
  begins := ⟨fun hx => absurd (hgap _ (List.mem_of_head? hx)) (by decide), hcomment⟩
  ends hx := absurd (hgap _ (List.mem_of_getLast? hx)) (by decide)
  goesOn := by
    have hspace : ' ' ∉ cs := fun hx => absurd (hgap _ hx) (by decide)
    refine (List.isChain_isInfix cs).imp fun x y hpair => ?_
    have hx : x ≠ ' ' := fun h => hspace (h ▸ hpair.subset (by simp))
    have hy : y ≠ ' ' := fun h => hspace (h ▸ hpair.subset (by simp))
    simp [Yaml.goesOn, hx, hy]

/-- A key is inline. -/
theorem IsKey.isInline (h : IsKey cs) : IsInline cs := by
  refine isInline_word h.ne_nil (fun x hx => isGap_of_isKeyChar (h.chars x hx)) ?_
  intro hx
  exact absurd (h.chars _ (List.mem_of_head? hx)) (by decide)

/-- A key begins with one of its characters, whatever is behind it. -/
theorem IsKey.head_append (h : IsKey cs) (tail : List Char) :
    (cs ++ tail).head?.all isKeyChar = true := by
  obtain ⟨x, cs, rfl⟩ := List.exists_cons_of_ne_nil h.ne_nil
  exact h.chars x List.mem_cons_self

/-- A word with spaces behind it is inline together with a text, if the text is and the word is no
mark of a value. -/
theorem isInline_append {n : Nat} (hne : run ≠ []) (hgap : ∀ x ∈ run, isGap x = false)
    (hcomment : run.head? ≠ some '#') (hhead : cs.head? ≠ some ' ') :
    IsInline (run ++ (List.replicate (n + 1) ' ' ++ cs)) ↔
      run.getLast? ≠ some ':' ∧ IsInline cs := by
  have hspaces : (List.replicate (n + 1) ' ').IsChain fun x y => goesOn x y = true := by
    refine (List.isChain_isInfix _).imp fun x y hpair => ?_
    rw [List.eq_of_mem_replicate (hpair.subset (List.mem_cons_self)),
      List.eq_of_mem_replicate (hpair.subset (List.mem_cons_of_mem x (List.mem_singleton_self y)))]
    rfl
  have hword := isInline_word hne hgap hcomment
  have hlastSpace : (List.replicate (n + 1) ' ').getLast? = some ' ' := by
    rw [List.replicate_succ', List.getLast?_concat]
  have hchain : (run ++ (List.replicate (n + 1) ' ' ++ cs)).IsChain (fun x y => goesOn x y = true) ↔
      run.getLast? ≠ some ':' ∧ cs.head? ≠ some '#' ∧ cs.IsChain fun x y => goesOn x y = true := by
    rw [List.isChain_append, List.isChain_append, hlastSpace]
    constructor
    · rintro ⟨_, ⟨_, hcs, hhash⟩, hmark⟩
      exact ⟨fun hx => absurd (hmark ':' hx ' ' rfl) (by decide),
        fun hy => absurd (hhash ' ' rfl '#' hy) (by decide), hcs⟩
    · rintro ⟨hlast, hhash, hcs⟩
      refine ⟨hword.goesOn, ⟨hspaces, hcs, ?_⟩, ?_⟩
      · rintro _ ⟨⟩ y hy
        have hy : y ≠ '#' := fun h => hhash (h ▸ hy)
        simp [Yaml.goesOn, hy]
      · rintro x hx _ ⟨⟩
        have hx : x ≠ ':' := fun h => hlast (h ▸ hx)
        simp [Yaml.goesOn, hx]
  constructor
  · intro h
    obtain ⟨hlast, hhash, hcs⟩ := hchain.mp h.goesOn
    have hne' : cs ≠ [] := by
      rintro rfl
      refine h.ends ?_
      rw [List.append_nil, List.getLast?_append_of_ne_nil _ (by simp), hlastSpace]
    have hends := h.ends
    rw [← List.append_assoc, List.getLast?_append_of_ne_nil _ hne'] at hends
    refine ⟨hlast, hne', ?_, ⟨hhead, hhash⟩, hends, hcs⟩
    exact fun x hx => h.oneLine x (List.mem_append_right _ (List.mem_append_right _ hx))
  · rintro ⟨hlast, h⟩
    refine ⟨by simp [hne], ?_, ?_, ?_, hchain.mpr ⟨hlast, h.begins.2, h.goesOn⟩⟩
    · intro x hx
      rcases List.mem_append.mp hx with hx | hx
      · exact hword.oneLine x hx
      · rcases List.mem_append.mp hx with hx | hx
        · rw [List.eq_of_mem_replicate hx]
          decide
        · exact h.oneLine x hx
    · rw [List.head?_append_of_ne_nil _ hne]
      exact hword.begins
    · rw [← List.append_assoc, List.getLast?_append_of_ne_nil _ h.ne_nil]
      exact h.ends

/-- A text begins with a word, behind which there are spaces. -/
theorem exists_word (cs : List Char) :
    ∃ run n more, cs = run ++ (List.replicate n ' ' ++ more) ∧ (∀ x ∈ run, x ≠ ' ') ∧
      more.head? ≠ some ' ' ∧ (n = 0 → more = []) := by
  let rest := cs.dropWhile (· != ' ')
  let spaces := rest.takeWhile (· == ' ')
  have hspaces : spaces = List.replicate spaces.length ' ' :=
    List.eq_replicate_of_mem fun x hx => by simpa using List.mem_takeWhile_imp hx
  refine ⟨cs.takeWhile (· != ' '), spaces.length, rest.dropWhile (· == ' '), ?_, ?_, ?_, ?_⟩
  · rw [← hspaces, List.takeWhile_append_dropWhile, List.takeWhile_append_dropWhile]
  · intro x hx
    simpa using List.mem_takeWhile_imp hx
  · intro hhead
    have hnot := List.head?_dropWhile_not (· == ' ') rest
    simp [hhead] at hnot
  · intro hn
    have hhead : rest.head? = none := by
      cases hrest : rest with
      | nil => rfl
      | cons x rest' =>
        have hx := List.head?_dropWhile_not (· != ' ') cs
        have hnone : spaces = [] := List.eq_nil_of_length_eq_zero hn
        rw [show cs.dropWhile (· != ' ') = x :: rest' from hrest] at hx
        simp only [spaces, hrest, List.takeWhile_cons] at hnone
        simp_all
    rw [List.head?_eq_none_iff.mp hhead]
    rfl

/-- An inline text is one word, or a word with spaces and an inline text behind it. -/
theorem IsInline.cases (h : IsInline cs) :
    (∀ x ∈ cs, isGap x = false) ∨
    ∃ run n more, run ≠ [] ∧ (∀ x ∈ run, isGap x = false) ∧ run.head? ≠ some '#' ∧
      run.getLast? ≠ some ':' ∧ cs = run ++ (List.replicate (n + 1) ' ' ++ more) ∧
        IsInline more := by
  have hgap : ∀ x ∈ cs, x ≠ ' ' → isGap x = false := by
    intro x hx hspace
    obtain ⟨htab, hbreak⟩ := h.oneLine x hx
    simp [isGap, hspace, htab, hbreak]
  obtain ⟨run, n, more, rfl, hrun, hhead, hnone⟩ := exists_word cs
  cases n with
  | zero =>
    left
    intro x hx
    refine hgap x hx (hrun x ?_)
    simpa [hnone rfl] using hx
  | succ n =>
    right
    have hne : run ≠ [] := by
      rintro rfl
      exact h.begins.1 rfl
    have hword : ∀ x ∈ run, isGap x = false := fun x hx =>
      hgap x (List.mem_append_left _ hx) (hrun x hx)
    have hcomment := h.begins.2
    rw [List.head?_append_of_ne_nil _ hne] at hcomment
    obtain ⟨hlast, hmore⟩ := (isInline_append hne hword hcomment hhead).mp h
    exact ⟨run, n, more, hne, hword, hcomment, hlast, rfl, hmore⟩

/-! ## Reading -/

/-- What begins with a gap, or is nothing in front of a gap, begins with a gap. -/
theorem atGap_append (hcs : atGap cs = true) (htail : atGap tail = true) :
    atGap (cs ++ tail) = true := by
  cases cs with
  | nil => exact htail
  | cons x cs => exact hcs

/-- Outside of brackets a colon is the mark of a value in front of gaps only. -/
theorem valueMarkBefore_eq (cs : List Char) : valueMarkBefore false cs = atGap cs := by
  cases cs <;> simp [valueMarkBefore, atGap]

/-- A word without gaps is read up to its end. -/
theorem plainRun_append (hcs : ∀ x ∈ cs, isGap x = false)
    (hlast : cs.getLast? = some ':' → atGap tail = false) (htail : plainRun false tail = 0) :
    plainRun false (cs ++ tail) = cs.length := by
  induction cs with
  | nil => exact htail
  | cons x cs ih =>
    obtain ⟨hx, hcs⟩ := List.forall_mem_cons.mp hcs
    have hmark : (x == ':' && valueMarkBefore false (cs ++ tail)) = false := by
      rw [valueMarkBefore_eq]
      cases cs with
      | nil =>
        by_cases hcolon : x = ':'
        · simp [hlast (by rw [hcolon]; rfl)]
        · simp [hcolon]
      | cons y cs => simp [atGap, hcs y List.mem_cons_self]
    have hlast' : cs.getLast? = some ':' → atGap tail = false := by
      cases cs with
      | nil => exact nofun
      | cons y cs => simpa [List.getLast?_cons_cons] using hlast
    rw [List.cons_append, plainRun, hx, hmark, ih hcs hlast']
    rfl

/-- Spaces before more of the line join two words. -/
theorem plainJoint_spaces {c : Cursor} {n : Nat} {x : Char}
    (hc : c.rest = List.replicate n ' ' ++ x :: tail) (hspace : x ≠ ' ') (hx : isBreak x = false) :
    plainJoint c = ⟨List.replicate n ' ', false, c.skip n⟩ := by
  have hrest : (c.skip n).rest = x :: tail := (Cursor.skip_spaces hc).1
  have hbreak : (c.skip n).lineBreak = ([], c.skip n) :=
    Cursor.lineBreak_of_not_break (by rw [hrest]; exact hx)
  rw [plainJoint, Cursor.span_spaces hc (by simpa using hspace)]
  simp only [hbreak]

/-- Spaces at the end of a line, with the indentation of the next one. -/
theorem plainJoint_line {c : Cursor} {m n : Nat}
    (hc : c.rest = List.replicate m ' ' ++ '\n' :: (List.replicate n ' ' ++ tail))
    (hleft : c.left = c.rest.length) (htail : tail.head?.all isKeyChar = true) :
    ∃ c', plainJoint c = ⟨[' '], true, c'⟩ ∧ c'.IsAt tail n := by
  have hend : (c.skip m).IsAt ('\n' :: (List.replicate n ' ' ++ tail)) (c.column + m) :=
    Cursor.IsAt.skip_spaces ⟨hc, rfl, hc ▸ hleft⟩
  have hline := hend.next_line
  have hnext : ((c.skip m).next.skip n).IsAt tail n := by
    have hskip := hline.skip_spaces
    rwa [Nat.zero_add] at hskip
  have hhead : tail.head? ≠ some ' ' ∧ tail.head?.any isBreak = false := by
    cases tail with
    | nil => exact ⟨nofun, rfl⟩
    | cons x tail =>
      have hx : isGap x = false := isGap_of_isKeyChar htail
      simp only [isGap, Bool.or_eq_false_iff, beq_eq_false_iff_ne] at hx
      simpa using ⟨hx.1.1, hx.2⟩
  have hbegins (y : Char) (hy : isKeyChar y = false) (hspace : y ≠ ' ') :
      (List.replicate n ' ' ++ tail).head? ≠ some y := by
    cases n with
    | succ n => simpa [List.replicate_succ] using hspace.symm
    | zero =>
      cases tail with
      | nil => exact nofun
      | cons x tail => simpa using ne_of_isKeyChar htail hy
  have hseparator : (c.skip m).next.atSeparator = false :=
    Cursor.atSeparator_of_head (hline.rest ▸ hbegins '-' rfl (by decide))
      (hline.rest ▸ hbegins '.' rfl (by decide))
  have hbreaks : plainBreaks ((c.skip m).next.left + 1) (c.skip m).next =
      (some [], (c.skip m).next.skip n) := by
    rw [plainBreaks, Cursor.skipSpaces, Cursor.skipWhile, Cursor.span_spaces hline.rest hhead.1,
      Cursor.lineBreak_of_not_break (by rw [hnext.rest]; exact hhead.2)]
  have hbreak : (c.skip m).lineBreak = (['\n'], (c.skip m).next) := by
    rw [Cursor.lineBreak, hend.rest]
    rfl
  refine ⟨(c.skip m).next.skip n, ?_, hnext⟩
  rw [plainJoint, Cursor.span_spaces hc (by simp)]
  simp only [hbreak, hseparator, hbreaks]
  rfl

/-- Whether a plain scalar that is indented so far ends with the joint. -/
def endsWith (indent : Int) (j : Joint) : Bool :=
  j.text.isEmpty || j.cursor.rest.head? == some '#' || decide ((j.cursor.column : Int) < indent)

/-- A word of a plain scalar is read, and then more of it unless it ends there. -/
theorem plainRest_word {indent : Int} {fuel : Nat} {j next : Joint} (hne : run ≠ [])
    (hgap : ∀ x ∈ run, isGap x = false) (hcomment : run.head? ≠ some '#')
    (hmark : run.getLast? = some ':' → atGap tail = false) (htail : plainRun false tail = 0)
    (hrest : j.cursor.rest = run ++ tail) (hnext : plainJoint (j.cursor.skip run.length) = next) :
    plainRest false indent (fuel + 1) j =
      if endsWith indent next then ⟨j.text ++ run, next.broken, next.cursor⟩
      else ⟨j.text ++ run ++ (plainRest false indent fuel next).text,
        (plainRest false indent fuel next).broken, (plainRest false indent fuel next).cursor⟩ := by
  have hhead : (j.cursor.rest.head? == some '#') = false := by
    obtain ⟨x, run, rfl⟩ := List.exists_cons_of_ne_nil hne
    simpa [hrest] using hcomment
  have hlength : plainRun false j.cursor.rest = run.length := by
    rw [hrest, plainRun_append hgap hmark htail]
  have hpos : run.length ≠ 0 := by simpa using hne
  rw [plainRest]
  simp only [hhead, Bool.false_eq_true, if_false]
  rw [hlength, if_neg hpos, hnext, hrest, List.take_left]
  rfl

/-- Where no word begins, a plain scalar has ended. -/
theorem plainRest_stopped {indent : Int} {j : Joint} (fuel : Nat)
    (hstop : plainRun false j.cursor.rest = 0) :
    plainRest false indent fuel j = ⟨[], j.broken, j.cursor⟩ := by
  cases fuel with
  | zero => rfl
  | succ fuel => simp [plainRest, hstop]

/-- **An inline text is read as it is.**  It is read up to its end, where the scalar ends too. -/
theorem plainRest_inline {indent : Int} {fuel : Nat} {j last : Joint} (h : IsInline cs)
    (hmark : cs.getLast? = some ':' → atGap tail = false) (htail : plainRun false tail = 0)
    (hrest : j.cursor.rest = cs ++ tail) (hcolumn : indent ≤ j.cursor.column + 1)
    (hfuel : cs.length < fuel) (hlast : plainJoint (j.cursor.skip cs.length) = last)
    (hends : endsWith indent last = true ∨ plainRun false last.cursor.rest = 0) :
    plainRest false indent fuel j = ⟨j.text ++ cs, last.broken, last.cursor⟩ := by
  induction fuel generalizing cs j with
  | zero => omega
  | succ fuel ih =>
    rcases h.cases with hword | ⟨run, n, more, hrun, hgap, hcomment, hcolon, rfl, hmore⟩
    · rw [plainRest_word h.ne_nil hword h.begins.2 hmark htail hrest hlast]
      rcases hends with hends | hstop
      · rw [if_pos hends]
      · rw [plainRest_stopped fuel hstop, List.append_nil, ite_self]
    · obtain ⟨x, more, rfl⟩ := List.exists_cons_of_ne_nil hmore.ne_nil
      have hx : x ≠ ' ' ∧ x ≠ '#' := by simpa using hmore.begins
      have hrest' : j.cursor.rest = run ++ (List.replicate (n + 1) ' ' ++ x :: more ++ tail) := by
        rw [hrest, List.append_assoc]
      have hmark' : (x :: more).getLast? = some ':' → atGap tail = false := by
        rw [← List.append_assoc, List.getLast?_append_of_ne_nil _ hmore.ne_nil] at hmark
        exact hmark
      have hrunLine : ∀ y ∈ run, isBreak y = false := fun y hy =>
        (h.oneLine y (List.mem_append_left _ hy)).2
      -- the place behind the word, and the one behind the spaces
      obtain ⟨c, hc⟩ : ∃ c, j.cursor.skip run.length = c := ⟨_, rfl⟩
      obtain ⟨d, hd⟩ : ∃ d, c.skip (n + 1) = d := ⟨_, rfl⟩
      obtain ⟨hword, _, _, _, hright, _⟩ := Cursor.skip_line hrest' hrunLine
      rw [hc, List.append_assoc] at hword
      rw [hc] at hright
      obtain ⟨hbehind, _, _, _, hright'⟩ := Cursor.skip_spaces hword
      rw [hd] at hbehind hright'
      have hjoint : plainJoint c = ⟨List.replicate (n + 1) ' ', false, d⟩ := by
        rw [plainJoint_spaces hword hx.1 (hmore.oneLine x List.mem_cons_self).2, hd]
      have hcolumn' : indent ≤ d.column := by omega
      have hgoes : endsWith indent ⟨List.replicate (n + 1) ' ', false, d⟩ = false := by
        simp [endsWith, List.replicate_succ, hbehind, hx.2, hcolumn']
      have hend : d.skip (x :: more).length =
          j.cursor.skip (run ++ (List.replicate (n + 1) ' ' ++ x :: more)).length := by
        rw [List.length_append, List.length_append, List.length_replicate, Cursor.skip_add, hc,
          Cursor.skip_add, hd]
      have hlength : (x :: more).length < fuel := by
        rw [List.length_append, List.length_append, List.length_replicate] at hfuel
        omega
      have hmore := ih (j := ⟨List.replicate (n + 1) ' ', false, d⟩) hmore hmark' hbehind
        (Int.le_add_one hcolumn') hlength (hend ▸ hlast)
      rw [plainRest_word hrun hgap hcomment (fun h => absurd h hcolon) rfl hrest' (hc ▸ hjoint),
        hgoes, hmore]
      simp

/-- **An inline text is read as a plain scalar**, and what is behind it decides where the reading
goes on. -/
theorem plainScalar_inline {c : Cursor} {indent : Int} {last : Joint} (h : IsInline cs)
    (hmark : cs.getLast? = some ':' → atGap tail = false) (htail : plainRun false tail = 0)
    (hrest : c.rest = cs ++ tail) (hleft : c.left = c.rest.length) (hcolumn : indent ≤ c.column + 1)
    (hlast : plainJoint (c.skip cs.length) = last)
    (hends : endsWith indent last = true ∨ plainRun false last.cursor.rest = 0) :
    plainScalar false indent c = ⟨cs, last.broken, last.cursor⟩ := by
  have hlength : cs.length < c.left + 1 := by
    rw [hleft, hrest, List.length_append]
    omega
  rw [plainScalar, plainRest_inline h hmark htail hrest hcolumn hlength hlast hends,
    List.nil_append]

/-- An inline text in front of something on its line that ends it. -/
theorem plainScalar_on_line {c : Cursor} {indent : Int} {n : Nat} {x : Char} (h : IsInline cs)
    (hmark : cs.getLast? = some ':' → atGap (List.replicate n ' ' ++ x :: tail) = false)
    (htail : plainRun false (List.replicate n ' ' ++ x :: tail) = 0)
    (hrest : c.rest = cs ++ (List.replicate n ' ' ++ x :: tail)) (hleft : c.left = c.rest.length)
    (hcolumn : indent ≤ c.column + 1) (hspace : x ≠ ' ') (hx : isBreak x = false)
    (hends : x = '#' ∨ plainRun false (x :: tail) = 0) :
    plainScalar false indent c = ⟨cs, false, (c.skip cs.length).skip n⟩ := by
  have hbehind := (Cursor.skip_line hrest fun y hy => (h.oneLine y hy).2).1
  refine plainScalar_inline h hmark htail hrest hleft hcolumn
    (plainJoint_spaces hbehind hspace hx) ?_
  have hrest' : ((c.skip cs.length).skip n).rest = x :: tail := (Cursor.skip_spaces hbehind).1
  rcases hends with rfl | hstop
  · left
    simp [endsWith, hrest']
  · right
    rw [hrest', hstop]

/-- An inline text with spaces behind it, in front of a line that is not indented further. -/
theorem plainScalar_before_line {c : Cursor} {indent : Int} {m n : Nat} (h : IsInline cs)
    (hmark : cs.getLast? ≠ some ':')
    (hrest : c.rest = cs ++ (List.replicate m ' ' ++ '\n' :: (List.replicate n ' ' ++ tail)))
    (hleft : c.left = c.rest.length) (hkey : tail.head?.all isKeyChar = true)
    (hcolumn : indent ≤ c.column + 1) (hindent : n < indent) :
    ∃ c', plainScalar false indent c = ⟨cs, true, c'⟩ ∧ c'.IsAt tail n := by
  obtain ⟨hbehind, _, _, hleft', _⟩ := Cursor.skip_line hrest fun x hx => (h.oneLine x hx).2
  have hcounted : (c.skip cs.length).left = (c.skip cs.length).rest.length := by
    rw [hleft', hleft, hbehind, hrest, List.length_append]
    omega
  obtain ⟨c', hjoint, hc'⟩ := plainJoint_line hbehind hcounted hkey
  have hrun : plainRun false
      (List.replicate m ' ' ++ '\n' :: (List.replicate n ' ' ++ tail)) = 0 := by
    cases m <;> rfl
  have hends : endsWith indent ⟨[' '], true, c'⟩ = true := by
    simp [endsWith, hc'.column, hindent]
  exact ⟨c', plainScalar_inline h (fun hx => absurd hx hmark) hrun hrest hleft hcolumn hjoint
    (.inl hends), hc'⟩

/-! ## What a text of one line is read as -/

/-- Spaces at the end of a line, with a comment or without. -/
inductive IsTrailing : List Char → Prop
  | blank (n : Nat) : IsTrailing (List.replicate n ' ')
  | comment (n : Nat) {cs : List Char} (h : ∀ x ∈ cs, isBreak x = false) :
    IsTrailing (List.replicate (n + 1) ' ' ++ '#' :: cs)

/-- Spaces and a comment behind a text begin with a gap. -/
theorem IsTrailing.atGap (h : IsTrailing cs) : atGap cs = true := by
  cases h with
  | blank n => cases n <;> rfl
  | comment n h => rfl

/-- A tab, or the mark of a value: neither is part of a plain scalar. -/
inductive IsStop : List Char → Prop
  | tab (cs : List Char) : IsStop ('\t' :: cs)
  | mark {cs : List Char} (h : atGap cs = true) : IsStop (':' :: cs)

/-- Nothing of a plain scalar is behind a stop. -/
theorem IsStop.plainRun_eq (h : IsStop cs) : plainRun false cs = 0 := by
  cases h with
  | tab cs => rfl
  | mark h =>
    rw [plainRun, valueMarkBefore_eq, h]
    rfl

/-- What goes on behind something without a space is a stop, or is part of a word. -/
theorem isStop_or {x : Char} (hspace : x ≠ ' ') (hx : isBreak x = false) (cs : List Char) :
    IsStop (x :: cs) ∨ isGap x = false ∧ (x = ':' → atGap cs = false) := by
  by_cases htab : x = '\t'
  · subst htab
    exact .inl (.tab cs)
  · have hgap : isGap x = false := by simp [isGap, hspace, htab, hx]
    by_cases hmark : x = ':' ∧ atGap cs = true
    · obtain ⟨rfl, hcs⟩ := hmark
      exact .inl (.mark hcs)
    · refine .inr ⟨hgap, fun hcolon => ?_⟩
      simpa [hcolon] using hmark

/-- The part of a word that is read. -/
theorem exists_run (hcs : ∀ x ∈ cs, x ≠ ' ' ∧ isBreak x = false) :
    ∃ run rest, cs = run ++ rest ∧ (∀ x ∈ run, isGap x = false) ∧ (rest = [] ∨ IsStop rest) ∧
      (run.getLast? = some ':' → atGap rest = false) := by
  induction cs with
  | nil => exact ⟨[], [], rfl, nofun, .inl rfl, nofun⟩
  | cons x cs ih =>
    obtain ⟨hx, hcs⟩ := List.forall_mem_cons.mp hcs
    rcases isStop_or hx.1 hx.2 cs with hstop | ⟨hgap, hmark⟩
    · exact ⟨[], x :: cs, rfl, nofun, .inr hstop, nofun⟩
    · obtain ⟨run, rest, rfl, hrun, hrest, hlast⟩ := ih hcs
      refine ⟨x :: run, rest, rfl, List.forall_mem_cons.mpr ⟨hgap, hrun⟩, hrest, ?_⟩
      cases run with
      | nil => simpa using hmark
      | cons y run => simpa [List.getLast?_cons_cons] using hlast

/-- A stop is one whatever is behind it. -/
theorem IsStop.append (h : IsStop cs) (htail : atGap tail = true) : IsStop (cs ++ tail) := by
  cases h with
  | tab cs => exact .tab (cs ++ tail)
  | mark h => exact .mark (atGap_append h htail)

/-- How a text of one line is read, from its first word on: up to the end, but for spaces and a
comment, or up to a stop. -/
inductive Splits : List Char → List Char → Prop
  | ends {cs trailing : List Char} (hmark : cs.getLast? ≠ some ':') (h : IsTrailing trailing) :
    Splits cs (cs ++ trailing)
  | stops {cs bad : List Char} (n : Nat)
    (hmark : cs.getLast? = some ':' → atGap (List.replicate n ' ' ++ bad) = false)
    (h : IsStop bad) : Splits cs (cs ++ (List.replicate n ' ' ++ bad))

/-- What is in front of a text does not change where its reading stops. -/
theorem Splits.append_left {text : List Char} (h : Splits text cs) (hne : text ≠ [])
    (before : List Char) : Splits (before ++ text) (before ++ cs) := by
  have hlast : (before ++ text).getLast? = text.getLast? :=
    List.getLast?_append_of_ne_nil _ hne
  cases h with
  | ends hmark h =>
    rw [← List.append_assoc]
    exact .ends (hlast ▸ hmark) h
  | stops n hmark h =>
    rw [← List.append_assoc]
    exact .stops n (hlast ▸ hmark) h

/-- **A text of one line begins with an inline text**, unless it begins with a space, a comment or a
stop. -/
theorem exists_inline (hcs : ∀ x ∈ cs, isBreak x = false) (hne : cs ≠ [])
    (hhead : cs.head? ≠ some ' ' ∧ cs.head? ≠ some '#') (hbegin : ¬ IsStop cs) :
    ∃ text, IsInline text ∧ Splits text cs := by
  -- what is behind the first word and its spaces is shorter, and is a text of the same kind unless
  -- it is empty, a comment or a stop
  induction hlength : cs.length using Nat.strong_induction_on generalizing cs with
  | _ length ih =>
  obtain ⟨word, n, more, rfl, hword, hspace, hnone⟩ := exists_word cs
  have hwordLine : ∀ x ∈ word, x ≠ ' ' ∧ isBreak x = false := fun x hx =>
    ⟨hword x hx, hcs x (List.mem_append_left _ hx)⟩
  obtain ⟨run, rest, rfl, hgap, hrest, hlast⟩ := exists_run hwordLine
  have hgapBehind : atGap (List.replicate n ' ' ++ more) = true := by
    cases n with
    | zero => rw [hnone rfl]; rfl
    | succ n => rfl
  have hrun : run ≠ [] := by
    rintro rfl
    rcases hrest with rfl | hstop
    · cases n with
      | zero => exact hne (by rw [hnone rfl]; rfl)
      | succ n => exact hhead.1 rfl
    · exact hbegin (hstop.append hgapBehind)
  have hcomment : run.head? ≠ some '#' := by
    have hcomment := hhead.2
    rwa [List.append_assoc, List.head?_append_of_ne_nil _ hrun] at hcomment
  rcases hrest with rfl | hstop
  · have hmark : run.getLast? ≠ some ':' := fun h => absurd (hlast h) (by decide)
    rw [List.append_nil]
    cases n with
    | zero =>
      rw [hnone rfl]
      exact ⟨run, isInline_word hrun hgap hcomment, .ends hmark (.blank 0)⟩
    | succ n =>
      have hmoreLine : ∀ x ∈ more, isBreak x = false := fun x hx =>
        hcs x (List.mem_append_right _ (List.mem_append_right _ hx))
      by_cases hnil : more = []
      · rw [hnil, List.append_nil]
        exact ⟨run, isInline_word hrun hgap hcomment, .ends hmark (.blank (n + 1))⟩
      by_cases hhash : more.head? = some '#'
      · obtain ⟨comment, rfl⟩ := List.head?_eq_some_iff.mp hhash
        exact ⟨run, isInline_word hrun hgap hcomment, .ends hmark
          (.comment n fun x hx => hmoreLine x (List.mem_cons_of_mem _ hx))⟩
      by_cases hstop : IsStop more
      · exact ⟨run, isInline_word hrun hgap hcomment,
          .stops (n + 1) (fun h => absurd h hmark) hstop⟩
      have hshorter : more.length < length := by
        rw [← hlength]
        simp only [List.length_append, List.length_replicate]
        omega
      obtain ⟨text, htext, hsplits⟩ := ih _ hshorter hmoreLine hnil ⟨hspace, hhash⟩ hstop rfl
      refine ⟨run ++ (List.replicate (n + 1) ' ' ++ text), ?_, ?_⟩
      · exact (isInline_append hrun hgap hcomment htext.begins.1).mpr ⟨hmark, htext⟩
      · have hlonger := hsplits.append_left htext.ne_nil (run ++ List.replicate (n + 1) ' ')
        rwa [List.append_assoc, List.append_assoc] at hlonger
  · refine ⟨run, isInline_word hrun hgap hcomment, ?_⟩
    have hmark : run.getLast? = some ':' →
        atGap (List.replicate 0 ' ' ++ (rest ++ (List.replicate n ' ' ++ more))) = false := by
      intro h
      cases hstop with
      | tab cs => exact absurd (hlast h) (by simp [atGap, isGap])
      | mark h' => rfl
    rw [List.append_assoc]
    exact .stops 0 hmark (hstop.append hgapBehind)

end

end StagedLoad.Yaml

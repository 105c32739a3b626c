import StagedLoad.Proofs.Sheet.Plain

/-!
# Reading the tokens of a line

Outside of brackets the state of the scanner is where it stands, the tokens so far, the columns of
the blocks around it, and perhaps a scalar that may still turn out to be a key.  A key in a column
opens a block unless the innermost block begins there, and the mark of a value behind the key puts a
token in front of it.  The text behind the mark is read over the end of its line, up to the next
line, whose column closes the blocks that begin further to the right.

* `Scan.read_entry` : reading a key and the mark behind it.
* `Scan.read_text` : reading a text, and going to the next line.
* `Scan.run_at_stop` : where a text is stopped on its line, the tokens break off.
-/

namespace StagedLoad.Yaml

namespace Scan

/-! ## Steps -/

/-- One token is read. -/
def Reads (s s' : Scan) : Prop :=
  ∃ ready x rest, s.advance = .ok ready ∧ ready.cursor.rest = x :: rest ∧
    ready.tokenAt x rest = .ok s'

/-- So many tokens are read. -/
inductive Trace : Nat → Scan → Scan → Prop
  | nil (s : Scan) : Trace 0 s s
  | cons {n : Nat} {s s' s'' : Scan} (head : s.Reads s') (tail : Trace n s' s'') :
    Trace (n + 1) s s''

namespace Trace

variable {m n : Nat} {s s' s'' : Scan}

/-- Tokens are read one after the other. -/
theorem append (h : Trace m s s') (h' : Trace n s' s'') : Trace (m + n) s s'' := by
  induction h with
  | nil s => rwa [Nat.zero_add]
  | cons head _ ih =>
    rw [Nat.succ_add]
    exact .cons head (ih h')

/-- What is read goes on from where a trace ends. -/
theorem run (h : Trace n s s') (fuel : Nat) : Scan.run (n + fuel) s = Scan.run fuel s' := by
  induction h with
  | nil s => rw [Nat.zero_add]
  | cons head _ ih =>
    obtain ⟨ready, x, rest, hadvance, hrest, htoken⟩ := head
    rw [Nat.succ_add, Scan.run, hadvance]
    simp only [hrest, htoken]
    exact ih

end Trace

/-- A place outside of brackets, with the tokens before it. -/
def standing (c : Cursor) (ts : List Token) (blocks : List Nat) (keyAllowed : Bool)
    (mark : Option KeyMark) : Scan :=
  { cursor := c, tokens := ts.reverse, count := ts.length, blocks, keyAllowed, mark }

section

variable {c : Cursor} {ts : List Token} {blocks : List Nat} {keyAllowed : Bool}
  {mark : Option KeyMark} {tail : List Char}

theorem emit_standing (t : Token) :
    (standing c ts blocks keyAllowed mark).emit t =
      standing c (ts ++ [t]) blocks keyAllowed mark := by
  simp [emit, standing]

/-- A token is put in front of the later ones. -/
theorem insert_standing (t : Token) (later : List Token) :
    (standing c (ts ++ later) blocks keyAllowed mark).insert ts.length t =
      standing c (ts ++ t :: later) blocks keyAllowed mark := by
  have hlater : (ts ++ later).length - ts.length = later.reverse.length := by simp
  simp only [insert, standing, hlater, List.reverse_append, List.take_left, List.drop_left]
  simp
  omega

/-! ## Going to the next token -/

/-- Spaces in front of something on the same line are passed over. -/
theorem skipBlankLines_spaces {s : Scan} {n : Nat} (fuel : Nat)
    (hrest : s.cursor.rest = List.replicate n ' ' ++ tail)
    (htail : tail.head?.all (fun x => x != ' ' && !isBreak x && x != '#') = true) :
    skipBlankLines (fuel + 1) s = { s with cursor := s.cursor.skip n } := by
  have hhead : tail.head? ≠ some ' ' ∧ tail.head? ≠ some '#' ∧
      tail.head?.any isBreak = false := by
    cases tail with
    | nil => exact ⟨nofun, nofun, rfl⟩
    | cons x tail => simp_all
  have hbehind : (s.cursor.skip n).rest = tail := (Cursor.skip_spaces hrest).1
  have hcomment : (s.cursor.skip n).skipComment = s.cursor.skip n := by
    rw [Cursor.skipComment, hbehind, if_neg (by simpa using hhead.2.1)]
  rw [skipBlankLines, Cursor.skipSpaces, Cursor.skipWhile, Cursor.span_spaces hrest hhead.1]
  simp only [hcomment]
  rw [Cursor.lineBreak_of_not_break (by rw [hbehind]; exact hhead.2.2)]

/-- A comment, if there is one, is skipped together with the end of its line. -/
theorem skipBlankLines_break {s : Scan} {comment : List Char} (fuel : Nat)
    (hrest : s.cursor.rest = comment ++ '\n' :: tail)
    (hcomment : comment = [] ∨ comment.head? = some '#')
    (hline : ∀ x ∈ comment, isBreak x = false) (hflow : s.outer = []) :
    skipBlankLines (fuel + 1) s = skipBlankLines fuel
      { s with cursor := (s.cursor.skip comment.length).next, keyAllowed := true } := by
  have hspaces : s.cursor.span (· == ' ') = ([], s.cursor) := by
    refine Cursor.span_spaces (n := 0) hrest ?_
    rcases hcomment with rfl | hhash
    · simp
    · obtain ⟨cs, rfl⟩ := List.head?_eq_some_iff.mp hhash
      simp
  have hskip : s.cursor.skipComment = s.cursor.skip comment.length := by
    rcases hcomment with rfl | hhash
    · rw [Cursor.skipComment, hrest]
      rfl
    · have htaken : s.cursor.rest.takeWhile (fun x => !isBreak x) = comment := by
        rw [hrest, List.takeWhile_append_of_pos (by simpa using hline)]
        simp [isBreak]
      have hhead : s.cursor.rest.head? = some '#' := by
        obtain ⟨cs, rfl⟩ := List.head?_eq_some_iff.mp hhash
        rw [hrest]
        rfl
      rw [Cursor.skipComment, hhead, if_pos (by decide), Cursor.skipWhile, Cursor.span, htaken]
  have hbreak : (s.cursor.skip comment.length).lineBreak =
      (['\n'], (s.cursor.skip comment.length).next) := by
    rw [Cursor.lineBreak, (Cursor.skip_line hrest hline).1]
    rfl
  rw [skipBlankLines, Cursor.skipSpaces, Cursor.skipWhile, hspaces]
  simp only [hskip]
  rw [hbreak]
  simp [inFlow, hflow]

/-- **Going to the next token** passes over blanks, and closes blocks by the column that it comes
to. -/
theorem advance_standing {c' : Cursor} {keyAllowed' : Bool}
    (hfirst : c.index = 0 → c.rest.head? ≠ some '\uFEFF')
    (hskip : skipBlankLines (c.left + 1) (standing c ts blocks keyAllowed mark) =
      standing c' ts blocks keyAllowed' mark)
    (hfresh : ∀ k ∈ mark, k.line = c'.line ∧ c'.index - k.index ≤ 1024) :
    (standing c ts blocks keyAllowed mark).advance =
      .ok ((standing c' ts blocks keyAllowed' mark).unwind c'.column) := by
  have hplace : (if c.index = 0 && c.rest.head? == some '\uFEFF' then c.next else c) = c := by
    rw [if_neg]
    simpa using hfirst
  have hstale : ∀ k ∈ mark, (standing c' ts blocks keyAllowed' mark).isStale k = false := by
    intro k hk
    obtain ⟨hline, hindex⟩ := hfresh k hk
    simp [isStale, standing, hline, hindex]
  have hdrop : (standing c' ts blocks keyAllowed' mark).dropStale =
      .ok (standing c' ts blocks keyAllowed' mark) := by
    cases mark with
    | none => rfl
    | some k =>
      have hk := hstale k rfl
      unfold dropStale
      simp only [standing] at hk ⊢
      simp [hk]
  have hcursor : (standing c ts blocks keyAllowed mark).cursor = c := rfl
  have hset : { standing c ts blocks keyAllowed mark with cursor := c } =
      standing c ts blocks keyAllowed mark := rfl
  unfold advance
  rw [hcursor]
  simp only [hplace, hset]
  rw [hskip, hdrop]
  rfl

/-- No block is closed at a column that is not to the left of it. -/
theorem unwind_standing_of_le {column : Int} (h : ∀ b ∈ blocks.head?, (b : Int) ≤ column) :
    (standing c ts blocks keyAllowed mark).unwind column =
      standing c ts blocks keyAllowed mark := by
  have hnone : blocks.takeWhile (fun b : Nat => decide (column < (b : Int))) = [] := by
    cases blocks with
    | nil => rfl
    | cons b blocks => simpa using h b rfl
  simp [unwind, standing, inFlow, hnone]

/-- A block that begins to the right of the column is closed. -/
theorem unwind_standing_cons {b : Nat} {column : Int} (h : column < (b : Int)) :
    (standing c ts (b :: blocks) keyAllowed mark).unwind column =
      (standing c (ts ++ [.blockEnd]) blocks keyAllowed mark).unwind column := by
  simp [unwind, standing, inFlow, h, emit]

/-- What begins with a key is no blank line. -/
theorem not_blank_of_isKeyChar (hkey : tail.head?.all isKeyChar = true) :
    tail.head?.all (fun x => x != ' ' && !isBreak x && x != '#') = true := by
  cases tail with
  | nil => rfl
  | cons x tail =>
    have hgap := isGap_of_isKeyChar hkey
    have hhash := ne_of_isKeyChar hkey (y := '#') rfl
    simp_all [isGap]

/-- Where a line begins, only blocks further to the right are closed. -/
theorem advance_at_line {column : Nat} (hc : c.IsAt tail column)
    (hkey : tail.head?.all isKeyChar = true) :
    (standing c ts blocks true none).advance =
      .ok ((standing c ts blocks true none).unwind column) := by
  have hfirst : c.index = 0 → c.rest.head? ≠ some '\uFEFF' := by
    intro _ hbom
    rw [hc.rest] at hbom
    rw [hbom] at hkey
    cases hkey
  have hskip : skipBlankLines (c.left + 1) (standing c ts blocks true none) =
      standing c ts blocks true none :=
    skipBlankLines_spaces (n := 0) _ hc.rest (not_blank_of_isKeyChar hkey)
  rw [advance_standing hfirst hskip nofun, hc.column]

/-- On a line of a block there is nothing to be closed. -/
theorem advance_in_block {column : Nat} (hc : c.IsAt tail column)
    (hkey : tail.head?.all isKeyChar = true) (hblocks : ∀ b ∈ blocks.head?, b ≤ column) :
    (standing c ts blocks true none).advance = .ok (standing c ts blocks true none) := by
  rw [advance_at_line hc hkey, unwind_standing_of_le]
  exact fun b hb => Int.ofNat_le.mpr (hblocks b hb)

variable (ts blocks keyAllowed) in
/-- Behind the last token of a line, a comment and the indentation of the next line are skipped. -/
theorem advance_over_end (comment : List Char) {n column : Nat}
    (hc : c.IsAt (comment ++ '\n' :: (List.replicate n ' ' ++ tail)) column) (hindex : 0 < c.index)
    (hcomment : comment = [] ∨ comment.head? = some '#')
    (hline : ∀ x ∈ comment, isBreak x = false) (hkey : tail.head?.all isKeyChar = true) :
    ∃ c', (standing c ts blocks keyAllowed none).advance =
      .ok ((standing c' ts blocks true none).unwind n) ∧ c'.IsAt tail n := by
  have hnext := (hc.skip_line hline).1.next_line
  have hc' := hnext.skip_spaces
  rw [Nat.zero_add] at hc'
  obtain ⟨fuel, hfuel⟩ : ∃ fuel, c.left = fuel + 1 := by
    refine ⟨c.left - 1, ?_⟩
    have hpos : 0 < c.left := by
      rw [hc.left, List.length_append, List.length_cons]
      omega
    omega
  have hskip : skipBlankLines (c.left + 1) (standing c ts blocks keyAllowed none) =
      standing ((c.skip comment.length).next.skip n) ts blocks true none := by
    rw [skipBlankLines_break _ hc.rest hcomment hline rfl, hfuel]
    exact skipBlankLines_spaces _ hnext.rest (not_blank_of_isKeyChar hkey)
  refine ⟨_, ?_, hc'⟩
  rw [advance_standing (by omega) hskip nofun, hc'.column]

/-! ## Reading a line -/

/-- What may begin a plain scalar is no mark, or is one of three marks with no gap behind it. -/
theorem beginsPlain_cases {x : Char} {rest : List Char} (h : beginsPlain false x rest = true) :
    (isGap x = false ∧ ∀ y ∈ "-?:,[]\x7b\x7d#&*!|>\x27\x22%@\x60".toList, x ≠ y) ∨
      atGap rest = false ∧ (x = '-' ∨ x = '?' ∨ x = ':') := by
  simp only [beginsPlain, Bool.or_eq_true, Bool.not_eq_true', Bool.or_eq_false_iff,
    Bool.and_eq_true, beq_iff_eq] at h
  rcases h with ⟨hgap, hmark⟩ | ⟨hgap, hmark⟩
  · left
    refine ⟨hgap, ?_⟩
    intro y hy hxy
    subst hxy
    exact absurd (List.contains_iff_mem.mpr hy) (by simpa using hmark)
  · exact .inr ⟨hgap, by simpa using hmark⟩

/-- What begins like a plain scalar is read as one. -/
theorem tokenAt_plain {s : Scan} {x : Char} {rest : List Char} (hflow : s.outer = [])
    (hbegin : beginsPlain false x rest = true)
    (hplace : s.cursor.column = 0 → s.cursor.atSeparator = false) :
    s.tokenAt x rest = s.plain := by
  have hinFlow : s.inFlow = false := by simp [inFlow, hflow]
  have hseparator : (s.cursor.column = 0 && s.cursor.atSeparator) = false := by
    by_cases hcolumn : s.cursor.column = 0 <;> simp [hcolumn, hplace]
  have hlist : "-?:,[]\x7b\x7d#&*!|>\x27\x22%@\x60".toList = ['-', '?', ':', ',', '[', ']', '\x7b',
      '\x7d', '#', '&', '*', '!', '|', '>', '\x27', '\x22', '%', '@', '\x60'] := by decide
  rcases beginsPlain_cases hbegin with ⟨_, hmark⟩ | ⟨hgap, rfl | rfl | rfl⟩
  · rw [hlist] at hmark
    simp only [List.forall_mem_cons] at hmark
    simp [tokenAt, hseparator, hinFlow, hbegin, hmark]
  all_goals simp [tokenAt, hseparator, hinFlow, hbegin, hgap]

/-- A character of a key begins a plain scalar. -/
theorem beginsPlain_of_isKeyChar {x : Char} (hx : isKeyChar x = true) (rest : List Char) :
    beginsPlain false x rest = true := by
  have hmarks : "-?:,[]\x7b\x7d#&*!|>\x27\x22%@\x60".toList.any isKeyChar = false := by decide
  have hmark : "-?:,[]\x7b\x7d#&*!|>\x27\x22%@\x60".toList.contains x = false := by
    rw [← Bool.not_eq_true, List.contains_iff_mem]
    intro hmem
    exact List.any_eq_false.mp hmarks x hmem hx
  rw [beginsPlain, isGap_of_isKeyChar hx, hmark]
  rfl

/-- The column that a scalar must be right of. -/
theorem indent_standing_le {column : Nat} (h : ∀ b ∈ blocks.head?, b ≤ column) :
    (standing c ts blocks keyAllowed mark).indent ≤ column := by
  cases blocks with
  | nil =>
    show (-1 : Int) ≤ column
    omega
  | cons b blocks => exact Int.ofNat_le.mpr (h b rfl)

/-- A plain scalar that may be a key is remembered. -/
theorem plain_standing_key {p : Plain}
    (hp : plainScalar false ((standing c ts blocks true none).indent + 1) c = p) :
    ∃ required, (standing c ts blocks true none).plain =
      .ok (standing p.cursor (ts ++ [.scalar true (.ofChars p.text)]) blocks p.broken
        (some ⟨ts.length, required, c.index, c.line, c.column⟩)) := by
  refine ⟨decide ((standing c ts blocks true none).indent = (c.column : Int)), ?_⟩
  rw [← emit_standing]
  subst hp
  rfl

/-- A plain scalar that cannot be a key. -/
theorem plain_standing_text {p : Plain}
    (hp : plainScalar false ((standing c ts blocks false mark).indent + 1) c = p) :
    (standing c ts blocks false mark).plain =
      .ok (standing p.cursor (ts ++ [.scalar true (.ofChars p.text)]) blocks p.broken mark) := by
  rw [← emit_standing]
  subst hp
  rfl

/-- Reading a key, which is remembered as one that may be. -/
theorem read_key {s : Scan} {key : List Char} {column : Nat} (hkey : IsKey key)
    (hadvance : s.advance = .ok (standing c ts blocks true none))
    (hc : c.IsAt (key ++ ':' :: tail) column) (hgap : atGap tail = true)
    (hblocks : ∀ b ∈ blocks.head?, b ≤ column) :
    ∃ required, s.Reads (standing (c.skip key.length) (ts ++ [.scalar true (.ofChars key)]) blocks
      false (some ⟨ts.length, required, c.index, c.line, column⟩)) := by
  obtain ⟨x, key', rfl⟩ := List.exists_cons_of_ne_nil hkey.ne_nil
  have hx : isKeyChar x = true := hkey.chars x List.mem_cons_self
  have hseparator : c.atSeparator = false := by
    have hhead (y : Char) (hy : isKeyChar y = false) : c.rest.head? ≠ some y := by
      rw [hc.rest]
      simpa using ne_of_isKeyChar hx hy
    exact Cursor.atSeparator_of_head (hhead '-' rfl) (hhead '.' rfl)
  have hindent : (standing c ts blocks true none).indent + 1 ≤ c.column + 1 := by
    rw [hc.column]
    exact Int.add_le_add_right (indent_standing_le hblocks) 1
  have hstop : IsStop (':' :: tail) := .mark hgap
  have hplain := plainScalar_on_line (n := 0) hkey.isInline (fun _ => rfl) hstop.plainRun_eq hc.rest
    (by rw [hc.left, hc.rest]) hindent (by decide) (by decide) (.inr hstop.plainRun_eq)
  obtain ⟨required, hkeyPlain⟩ := plain_standing_key hplain
  rw [hc.column] at hkeyPlain
  refine ⟨required, _, x, key' ++ ':' :: tail, hadvance, hc.rest, ?_⟩
  rw [tokenAt_plain rfl (beginsPlain_of_isKeyChar hx _) fun _ => hseparator]
  exact hkeyPlain

/-- The columns of the blocks when a key in the column is known. -/
def opened (column : Nat) (blocks : List Nat) : List Nat :=
  if blocks.head? = some column then blocks else column :: blocks

/-- What a key in the column opens. -/
def opening (column : Nat) (blocks : List Nat) : List Token :=
  if blocks.head? = some column then [] else [.blockMappingStart]

/-- A key in the column opens a block, unless the innermost block begins there. -/
theorem openBlock_standing {column : Nat} (later : List Token)
    (hblocks : ∀ b ∈ blocks.head?, b ≤ column) :
    (standing c (ts ++ later) blocks keyAllowed mark).openBlock column
        (insert ts.length .blockMappingStart) =
      standing c (ts ++ opening column blocks ++ later) (opened column blocks) keyAllowed mark := by
  have hindent : (standing c (ts ++ later) blocks keyAllowed mark).indent < (column : Int) ↔
      blocks.head? ≠ some column := by
    cases blocks with
    | nil => simp [indent, standing]; omega
    | cons b blocks =>
      have hb : b ≤ column := hblocks b rfl
      simp [indent, standing]
      omega
  unfold openBlock opening opened
  by_cases hhead : blocks.head? = some column
  · rw [if_neg, if_pos hhead, if_pos hhead, List.append_nil]
    simp [hindent, hhead]
  · rw [if_pos, if_neg hhead, if_neg hhead, List.append_assoc]
    · exact insert_standing .blockMappingStart later
    · rw [decide_eq_true (hindent.mpr hhead)]
      rfl

/-- A colon in front of a gap is the mark of a value. -/
theorem tokenAt_mark {s : Scan} (hrest : s.cursor.rest = ':' :: tail)
    (hgap : atGap tail = true) : s.tokenAt ':' tail = s.valueMark := by
  have hseparator : s.cursor.atSeparator = false :=
    Cursor.atSeparator_of_head (by rw [hrest]; simp) (by rw [hrest]; simp)
  simp [tokenAt, hseparator, hgap]

theorem head_opened (column : Nat) (blocks : List Nat) :
    (opened column blocks).head? = some column := by
  unfold opened
  by_cases hhead : blocks.head? = some column
  · rw [if_pos hhead, hhead]
  · rw [if_neg hhead, List.head?_cons]

/-- Reading the mark of a value, which makes the scalar before it a key. -/
theorem read_mark {n column : Nat} {k : KeyMark} {t : Token}
    (hc : c.IsAt (':' :: tail) (column + n)) (hgap : atGap tail = true) (hindex : 0 < c.index)
    (hblocks : ∀ b ∈ blocks.head?, b ≤ column) (hnumber : k.number = ts.length)
    (hcolumn : k.column = column) (hline : k.line = c.line) (hshort : c.index - k.index ≤ 1024) :
    (standing c (ts ++ [t]) blocks false (some k)).Reads
      (standing c.next (ts ++ opening column blocks ++ [.key, t, .value]) (opened column blocks)
        false none) := by
  have hadvance : (standing c (ts ++ [t]) blocks false (some k)).advance =
      .ok (standing c (ts ++ [t]) blocks false (some k)) := by
    have hskip : skipBlankLines (c.left + 1) (standing c (ts ++ [t]) blocks false (some k)) =
        standing c (ts ++ [t]) blocks false (some k) :=
      skipBlankLines_spaces (n := 0) _ hc.rest rfl
    rw [advance_standing (by omega) hskip, unwind_standing_of_le]
    · intro b hb
      have := hblocks b hb
      rw [hc.column]
      omega
    · rintro k' ⟨⟩
      exact ⟨hline, hshort⟩
  have hkey : ({ standing c (ts ++ [t]) blocks false (some k) with mark := none }.insert k.number
      .key) = standing c (ts ++ [.key, t]) blocks false none := by
    rw [hnumber]
    exact insert_standing .key [t]
  have hvalue : (standing c (ts ++ [t]) blocks false (some k)).valueMark =
      .ok (standing c.next (ts ++ opening column blocks ++ [.key, t, .value])
        (opened column blocks) false none) := by
    calc
      _ = (({ standing c (ts ++ [t]) blocks false (some k) with mark := none }.insert k.number
            .key).openBlock k.column (insert k.number .blockMappingStart)).indicator .value false :=
        rfl
      _ = (standing c (ts ++ opening column blocks ++ [.key, t]) (opened column blocks) false
            none).indicator .value false := by
        rw [hkey, hnumber, hcolumn, openBlock_standing [.key, t] hblocks]
      _ = .ok ((standing c.next (ts ++ opening column blocks ++ [.key, t]) (opened column blocks)
            false none).emit .value) := rfl
      _ = _ := by rw [emit_standing, List.append_assoc _ [.key, t]]; rfl
  refine ⟨_, ':', tail, hadvance, hc.rest, ?_⟩
  rw [tokenAt_mark hc.rest hgap, hvalue]

/-- Reading a key and the mark behind it. -/
theorem read_entry {s : Scan} {key : List Char} {column : Nat} (hkey : IsKey key)
    (hadvance : s.advance = .ok (standing c ts blocks true none))
    (hc : c.IsAt (key ++ ':' :: tail) column) (hgap : atGap tail = true)
    (hblocks : ∀ b ∈ blocks.head?, b ≤ column) :
    ∃ c', Trace 2 s (standing c' (ts ++ opening column blocks ++
        [.key, .scalar true (.ofChars key), .value]) (opened column blocks) false none) ∧
      c'.IsAt tail (column + key.length + 1) ∧ 0 < c'.index := by
  obtain ⟨required, hreadKey⟩ := read_key hkey hadvance hc hgap hblocks
  have hchars : ∀ x ∈ key, isBreak x = false ∧ x ≠ '\uFEFF' := fun x hx =>
    ⟨(hkey.isInline.oneLine x hx).2, ne_of_isKeyChar (hkey.chars x hx) rfl⟩
  have hmark := hc.skip hchars
  obtain ⟨_, hindex, hline, _⟩ := Cursor.skip_line hc.rest fun x hx => (hchars x hx).1
  have hlength : 0 < key.length := List.length_pos_of_ne_nil hkey.ne_nil
  have hshort := hkey.short
  have hreadMark := read_mark (k := ⟨ts.length, required, c.index, c.line, column⟩)
    (t := .scalar true (.ofChars key)) hmark hgap (by omega) hblocks rfl rfl hline.symm
    (by dsimp only; omega)
  obtain ⟨hbehind, hindex', _, hcolumn', hleft'⟩ := Cursor.next_of_not_break hmark.rest rfl
  refine ⟨_, .cons hreadKey (.cons hreadMark (.nil _)), ⟨hbehind, ?_, ?_⟩, by omega⟩
  · rw [hcolumn', hmark.column]
    rfl
  · rw [hleft', hmark.left]
    rfl

/-- A text begins like a plain scalar whatever is behind a gap. -/
theorem beginsPlain_append {x : Char} {cs : List Char} (h : beginsPlain false x cs = true)
    (hgap : atGap tail = true) : beginsPlain false x (cs ++ tail) = true := by
  cases cs with
  | cons y cs => exact h
  | nil =>
    rw [beginsPlain] at h ⊢
    rw [List.nil_append, hgap]
    exact h

theorem beginsPlain_of_append {x : Char} {cs : List Char}
    (h : beginsPlain false x (cs ++ tail) = true) (hgap : atGap tail = true) :
    beginsPlain false x cs = true := by
  cases cs with
  | cons y cs => exact h
  | nil =>
    rw [beginsPlain] at h ⊢
    rw [List.nil_append, hgap] at h
    exact h

/-- No gap and no hash begins a plain scalar. -/
theorem head_of_beginsPlain {x : Char} {rest : List Char} (h : beginsPlain false x rest = true) :
    isGap x = false ∧ x ≠ '#' := by
  rcases beginsPlain_cases h with ⟨hgap, hmark⟩ | ⟨_, rfl | rfl | rfl⟩
  · exact ⟨hgap, hmark '#' (by decide)⟩
  all_goals decide

variable (ts blocks) in
/-- Reading what is written as a plain scalar behind a mark. -/
theorem read_plain {x : Char} {rest : List Char} {b column : Nat} {p : Plain}
    (hbegin : beginsPlain false x rest = true) (hc : c.IsAt (' ' :: x :: rest) column)
    (hindex : 0 < c.index) (hb : b ≤ column)
    (hp : plainScalar false ((b : Int) + 1) (c.skip 1) = p) :
    (standing c ts (b :: blocks) false none).Reads
      (standing p.cursor (ts ++ [.scalar true (.ofChars p.text)]) (b :: blocks) p.broken none) := by
  have hx := head_of_beginsPlain hbegin
  have hnext : (c.skip 1).IsAt (x :: rest) (column + 1) := Cursor.IsAt.skip_spaces (n := 1) hc
  have hadvance : (standing c ts (b :: blocks) false none).advance =
      .ok (standing (c.skip 1) ts (b :: blocks) false none) := by
    have hhead : (x :: rest).head?.all (fun x => x != ' ' && !isBreak x && x != '#') = true := by
      simp_all [isGap]
    have hskip : skipBlankLines (c.left + 1) (standing c ts (b :: blocks) false none) =
        standing (c.skip 1) ts (b :: blocks) false none :=
      skipBlankLines_spaces (n := 1) _ hc.rest hhead
    rw [advance_standing (by omega) hskip (by simp), unwind_standing_of_le]
    rintro _ ⟨⟩
    rw [hnext.column]
    omega
  have hplace : (c.skip 1).column = 0 → (c.skip 1).atSeparator = false := by
    rw [hnext.column]
    omega
  refine ⟨_, x, rest, hadvance, hnext.rest, ?_⟩
  rw [tokenAt_plain rfl hbegin hplace]
  exact plain_standing_text hp

variable (ts blocks) in
/-- Reading a text behind a mark, over the end of its line and the indentation of the next one. -/
theorem read_text {text trailing : List Char} {n b column : Nat} (htext : IsPlain text)
    (htrailing : IsTrailing trailing)
    (hc : c.IsAt (' ' :: (text ++ (trailing ++ '\n' :: (List.replicate n ' ' ++ tail)))) column)
    (hindex : 0 < c.index) (hkey : tail.head?.all isKeyChar = true) (hn : n ≤ b) (hb : b ≤ column) :
    ∃ s c', (standing c ts (b :: blocks) false none).Reads s ∧
      s.advance = .ok ((standing c' (ts ++ [.scalar true (.ofChars text)]) (b :: blocks) true
        none).unwind n) ∧ c'.IsAt tail n := by
  obtain ⟨x, text, rfl, hbegin⟩ := htext.plain
  have hnext : (c.skip 1).IsAt (x :: text ++ (trailing ++ '\n' :: (List.replicate n ' ' ++ tail)))
      (column + 1) := Cursor.IsAt.skip_spaces (n := 1) hc
  have hindex' : 0 < (c.skip 1).index := by
    rw [(Cursor.skip_spaces (n := 1) hc.rest).2.1]
    omega
  have hcolumn : (b : Int) + 1 ≤ (c.skip 1).column + 1 := by
    rw [hnext.column]
    omega
  have hcounted : (c.skip 1).left = (c.skip 1).rest.length := by rw [hnext.left, hnext.rest]
  have hgap : atGap (trailing ++ '\n' :: (List.replicate n ' ' ++ tail)) = true :=
    atGap_append htrailing.atGap rfl
  have hbegin' := beginsPlain_append hbegin hgap
  cases htrailing with
  | blank m =>
    have hindent : (n : Int) < b + 1 := by omega
    obtain ⟨c', hplain, hc'⟩ := plainScalar_before_line htext.toIsInline htext.noMark hnext.rest
      hcounted hkey hcolumn hindent
    exact ⟨_, c', read_plain ts blocks hbegin' hc hindex hb hplain, advance_at_line hc' hkey, hc'⟩
  | @comment m comment hline =>
    rw [List.append_assoc] at hnext
    have hrest : (c.skip 1).rest = x :: text ++ (List.replicate (m + 1) ' ' ++
        '#' :: (comment ++ '\n' :: (List.replicate n ' ' ++ tail))) := hnext.rest
    have hplain := plainScalar_on_line htext.toIsInline (fun h => absurd h htext.noMark) (by rfl)
      hrest hcounted hcolumn (by decide) (by decide) (.inl rfl)
    obtain ⟨hbehind, _, hindexText⟩ :=
      hnext.skip_line fun y hy => (htext.oneLine y hy).2
    have hcomment := hbehind.skip_spaces
    have hindexSpaces := (Cursor.skip_spaces hbehind.rest).2.1
    have hhash : ∀ y ∈ '#' :: comment, isBreak y = false :=
      List.forall_mem_cons.mpr ⟨rfl, hline⟩
    obtain ⟨c', hadvance, hc'⟩ := Scan.advance_over_end
      (ts ++ [.scalar true (.ofChars (x :: text))]) (b :: blocks) false ('#' :: comment) hcomment
      (by omega) (.inr rfl) hhash hkey
    exact ⟨_, c', read_plain ts blocks hbegin' hc hindex hb hplain, hadvance, hc'⟩

/-- What stops a plain scalar begins no token there. -/
theorem tokenAt_stop {x : Char} {rest : List Char} (hstop : IsStop (x :: rest))
    (hc : c.rest = x :: rest) :
    (standing c ts blocks false none).tokenAt x rest = .error .malformed := by
  cases hstop with
  | mark hgap => rw [tokenAt_mark hc hgap]; rfl
  | tab _ =>
    have hseparator : c.atSeparator = false :=
      Cursor.atSeparator_of_head (by simp [hc]) (by simp [hc])
    have hplain : beginsPlain false '\t' rest = false := by simp [beginsPlain, isGap]
    simp [tokenAt, standing, inFlow, hseparator, hplain]

/-- Where a text is stopped on its line, what is behind it is at fault. -/
theorem run_at_stop {text bad : List Char} {n b column : Nat} (fuel : Nat) (htext : IsInline text)
    (hbegin : ∃ x rest, text ++ (List.replicate n ' ' ++ bad) = x :: rest ∧
      beginsPlain false x rest = true)
    (hmark : text.getLast? = some ':' → atGap (List.replicate n ' ' ++ bad) = false)
    (hbad : IsStop bad) (hc : c.IsAt (' ' :: (text ++ (List.replicate n ' ' ++ bad))) column)
    (hindex : 0 < c.index) (hb : b ≤ column) :
    run (fuel + 2) (standing c ts (b :: blocks) false none) =
      ts ++ [.scalar true (.ofChars text), .broken .malformed] := by
  obtain ⟨x, rest, hfirst, hbegin⟩ := hbegin
  obtain ⟨y, bad, rfl, hspace, hbreak⟩ :
      ∃ y bad', bad = y :: bad' ∧ y ≠ ' ' ∧ isBreak y = false := by
    cases hbad with
    | tab cs => exact ⟨'\t', cs, rfl, by decide, rfl⟩
    | @mark cs h => exact ⟨':', cs, rfl, by decide, rfl⟩
  have hnext : (c.skip 1).IsAt (text ++ (List.replicate n ' ' ++ y :: bad)) (column + 1) :=
    Cursor.IsAt.skip_spaces (n := 1) hc
  have hrun : plainRun false (List.replicate n ' ' ++ y :: bad) = 0 := by
    cases n with
    | zero => exact hbad.plainRun_eq
    | succ n => rfl
  have hindent : (b : Int) + 1 ≤ (c.skip 1).column + 1 := by
    rw [hnext.column]
    omega
  have hplain := plainScalar_on_line htext hmark hrun hnext.rest
    (by rw [hnext.left, hnext.rest]) hindent hspace hbreak (.inr hbad.plainRun_eq)
  have hread := read_plain ts blocks hbegin (hfirst ▸ hc) hindex hb hplain
  -- the place of the stop
  obtain ⟨hbehind, hright, hlater⟩ := hnext.skip_line fun z hz => (htext.oneLine z hz).2
  have hstop := hbehind.skip_spaces
  have hindexSpace := (Cursor.skip_spaces (n := 1) hc.rest).2.1
  have hindexStop := (Cursor.skip_spaces hbehind.rest).2.1
  obtain ⟨d, hd⟩ : ∃ d, ((c.skip 1).skip text.length).skip n = d := ⟨_, rfl⟩
  rw [hd] at hread hstop hindexStop
  have hadvance : (standing d (ts ++ [.scalar true (.ofChars text)]) (b :: blocks) false
      none).advance =
        .ok (standing d (ts ++ [.scalar true (.ofChars text)]) (b :: blocks) false none) := by
    have hskip : skipBlankLines (d.left + 1) (standing d (ts ++ [.scalar true (.ofChars text)])
        (b :: blocks) false none) =
          standing d (ts ++ [.scalar true (.ofChars text)]) (b :: blocks) false none := by
      refine skipBlankLines_spaces (n := 0) _ hstop.rest ?_
      have hhash : y ≠ '#' := by cases hbad <;> decide
      simp [hspace, hbreak, hhash]
    rw [advance_standing (by omega) hskip nofun, unwind_standing_of_le]
    rintro _ ⟨⟩
    rw [hstop.column]
    omega
  have htrace := (Trace.cons hread (.nil _)).run (fuel + 1)
  rw [show fuel + 2 = 0 + 1 + (fuel + 1) by omega, htrace, run, hadvance]
  have hrest : (standing d (ts ++ [.scalar true (.ofChars text)]) (b :: blocks) false
      none).cursor.rest = y :: bad := hstop.rest
  simp only [hrest]
  rw [tokenAt_stop hbad hstop.rest]
  dsimp only
  rw [broken_of_no_mark (by simp [standing]) rfl rfl]
  simp [standing]

end

end Scan

end StagedLoad.Yaml

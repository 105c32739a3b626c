import StagedLoad.Proofs.Sheet.Tokens

/-!
# Lines under a name

A sheet is written line by line: a name, lines under it that are indented, and lines beside it, each
with a key and a text.

* `Sheet.tokensOf_written` : the tokens of a sheet.
* `Scan.tokensOf_stopped` : the tokens up to a line that cannot be read.
-/

namespace StagedLoad.Yaml

/-! ## Lines -/

/-- A key and a text, with what is behind them on their line. -/
structure Line where
  key : List Char
  text : List Char
  trailing : List Char := []

namespace Line

/-- A key that is one, and a text that can be written as a plain scalar, with spaces or a comment
behind it. -/
structure IsSound (l : Line) : Prop where
  key : IsKey l.key
  text : IsPlain l.text
  trailing : IsTrailing l.trailing

/-- The line as it is written behind its indentation. -/
def written (l : Line) : List Char := l.key ++ ':' :: ' ' :: (l.text ++ (l.trailing ++ ['\n']))

/-- The lines as they are written, each indented so far. -/
def block (column : Nat) (ls : List Line) : List Char :=
  ls.flatMap fun l => List.replicate column ' ' ++ l.written

/-- A line is written from its key on. -/
theorem IsSound.head_written {l : Line} (h : l.IsSound) (tail : List Char) :
    (l.written ++ tail).head?.all isKeyChar = true := by
  rw [written, List.append_assoc]
  exact h.key.head_append _

/-- The tokens of the line. -/
def tokens (l : Line) : List Token :=
  [.key, .scalar true (.ofChars l.key), .value, .scalar true (.ofChars l.text)]

end Line

namespace Scan

section

variable {c : Cursor} {ts : List Token} {blocks : List Nat} {tail : List Char}

/-- Reading a line, and the indentation of the next one. -/
theorem read_line {s : Scan} {l : Line} {n column : Nat} (hl : l.IsSound)
    (hadvance : s.advance = .ok (standing c ts blocks true none))
    (hc : c.IsAt (l.written ++ (List.replicate n ' ' ++ tail)) column)
    (hblocks : ∀ b ∈ blocks.head?, b ≤ column) (hkey : tail.head?.all isKeyChar = true)
    (hn : n ≤ column) :
    ∃ s' c', Trace 3 s s' ∧ s'.advance = .ok ((standing c' (ts ++ opening column blocks ++ l.tokens)
      (opened column blocks) true none).unwind n) ∧ c'.IsAt tail n := by
  have hrest : l.written ++ (List.replicate n ' ' ++ tail) = l.key ++ ':' :: ' ' ::
      (l.text ++ (l.trailing ++ '\n' :: (List.replicate n ' ' ++ tail))) := by
    simp [Line.written]
  rw [hrest] at hc
  obtain ⟨d, hentry, hd, hindex⟩ := read_entry hl.key hadvance hc rfl hblocks
  obtain ⟨blocks', hopened⟩ := List.head?_eq_some_iff.mp (head_opened column blocks)
  obtain ⟨s', c', htext, hnext, hc'⟩ := read_text
    (ts ++ opening column blocks ++ [.key, .scalar true (.ofChars l.key), .value]) blocks' hl.text
    hl.trailing hd hindex hkey hn (by omega)
  have htokens : ts ++ opening column blocks ++ [.key, .scalar true (.ofChars l.key), .value] ++
      [.scalar true (.ofChars l.text)] = ts ++ opening column blocks ++ l.tokens :=
    List.append_assoc _ _ _
  rw [htokens] at hnext
  rw [hopened] at hentry ⊢
  exact ⟨s', c', hentry.append (.cons htext (.nil _)), hnext, hc'⟩

/-- Reading the lines of a block, and the indentation of the line behind it. -/
theorem read_lines {s : Scan} {l : Line} {ls : List Line} {n column : Nat}
    (hls : ∀ l' ∈ l :: ls, l'.IsSound) (hadvance : s.advance = .ok (standing c ts blocks true none))
    (hc : c.IsAt (l.written ++ (Line.block column ls ++ (List.replicate n ' ' ++ tail))) column)
    (hblocks : ∀ b ∈ blocks.head?, b ≤ column) (hkey : tail.head?.all isKeyChar = true)
    (hn : n ≤ column) :
    ∃ s' c', Trace (3 * (ls.length + 1)) s s' ∧
      s'.advance = .ok ((standing c' (ts ++ opening column blocks ++
        (l :: ls).flatMap Line.tokens) (opened column blocks) true none).unwind n) ∧
      c'.IsAt tail n := by
  induction ls generalizing s c ts blocks l with
  | nil =>
    obtain ⟨hl, _⟩ := List.forall_mem_cons.mp hls
    obtain ⟨s', c', htrace, hnext, hc'⟩ := read_line hl hadvance hc hblocks hkey hn
    exact ⟨s', c', htrace, by simpa using hnext, hc'⟩
  | cons l' ls ih =>
    obtain ⟨hl, hls⟩ := List.forall_mem_cons.mp hls
    have hkey' := (hls l' List.mem_cons_self).head_written
      (Line.block column ls ++ (List.replicate n ' ' ++ tail))
    obtain ⟨s', d, hline, hadvance', hd⟩ := read_line hl hadvance (by simpa [Line.block] using hc)
      hblocks hkey' (Nat.le_refl column)
    have hhead := head_opened column blocks
    have hopened : ∀ b ∈ (opened column blocks).head?, b ≤ column := by
      rw [hhead]
      rintro b ⟨⟩
      exact Nat.le_refl column
    rw [unwind_standing_of_le fun b hb => Int.ofNat_le.mpr (hopened b hb)] at hadvance'
    have hnone : opening column (opened column blocks) = [] := if_pos hhead
    have hsame : opened column (opened column blocks) = opened column blocks := if_pos hhead
    obtain ⟨s'', c', hlines, hnext, hc'⟩ := ih hls hadvance' hd hopened
    have htokens : ts ++ opening column blocks ++ l.tokens ++ (l' :: ls).flatMap Line.tokens =
        ts ++ opening column blocks ++ (l :: l' :: ls).flatMap Line.tokens :=
      List.append_assoc _ _ _
    rw [hnone, hsame, List.append_nil, htokens] at hnext
    have hsteps : 3 * ((l' :: ls).length + 1) = 3 + 3 * (ls.length + 1) := by
      rw [List.length_cons]
      omega
    exact ⟨s'', c', hsteps ▸ hline.append hlines, hnext, hc'⟩

/-- Reading the last lines of the outermost block, if there are any. -/
theorem read_last_lines {s : Scan} {ls : List Line} (hls : ∀ l ∈ ls, l.IsSound)
    (hadvance : s.advance = .ok (standing c ts [0] true none)) (hc : c.IsAt (Line.block 0 ls) 0) :
    ∃ s' c', Trace (3 * ls.length) s s' ∧
      s'.advance = .ok (standing c' (ts ++ ls.flatMap Line.tokens) [0] true none) ∧
        c'.rest = [] := by
  cases ls with
  | nil => exact ⟨s, c, .nil s, by simpa using hadvance, hc.rest⟩
  | cons l ls =>
    have hc : c.IsAt (l.written ++ (Line.block 0 ls ++ (List.replicate 0 ' ' ++ []))) 0 := by
      simpa [Line.block] using hc
    obtain ⟨s', c', htrace, hnext, hc'⟩ := read_lines hls hadvance hc (by simp) rfl (Nat.le_refl 0)
    have hnone : opening 0 [0] = [] := rfl
    have hsame : opened 0 [0] = [0] := rfl
    rw [hnone, hsame, List.append_nil, unwind_standing_of_le (by simp)] at hnext
    exact ⟨s', c', htrace, hnext, hc'.rest⟩

/-- At the end of the text the outermost block is closed. -/
theorem run_at_end {s : Scan} {b : Nat} (fuel : Nat)
    (hadvance : s.advance = .ok (standing c ts [b] true none)) (hc : c.rest = []) :
    run (fuel + 1) s = ts ++ [.blockEnd] := by
  have hclosed : ((standing c ts [b] true none).unwind (-1)).dropMark =
      .ok (standing c (ts ++ [.blockEnd]) [] true none) := by
    rw [unwind_standing_cons (by omega), unwind_standing_of_le (by simp)]
    rfl
  rw [run, hadvance]
  simp only [standing] at hclosed ⊢
  simp only [hc, hclosed, List.reverse_reverse]

/-- The tokens of lines under a name, so far. -/
def namedTokens (name : List Char) (ls : List Line) : List Token :=
  [.blockMappingStart, .key, .scalar true (.ofChars name), .value, .blockMappingStart] ++
    ls.flatMap Line.tokens

/-- Reading a name and the lines under it. -/
theorem read_named {name : List Char} {l : Line} {ls : List Line} {n : Nat} (hname : IsKey name)
    (hls : ∀ l' ∈ l :: ls, l'.IsSound) (hkey : tail.head?.all isKeyChar = true) (hn : n ≤ 2)
    (hc : c.IsAt (name ++ ':' :: '\n' :: (Line.block 2 (l :: ls) ++
      (List.replicate n ' ' ++ tail))) 0) :
    ∃ s c', Trace (2 + 3 * (ls.length + 1)) (standing c [] [] true none) s ∧
      s.advance = .ok ((standing c' (namedTokens name (l :: ls)) [2, 0] true none).unwind n) ∧
      c'.IsAt tail n := by
  have hbegin : (name ++ ':' :: '\n' :: (Line.block 2 (l :: ls) ++
      (List.replicate n ' ' ++ tail))).head?.all isKeyChar = true := hname.head_append _
  have hfirst : (standing c [] [] true none).advance = .ok (standing c [] [] true none) :=
    advance_in_block hc hbegin (by simp)
  obtain ⟨d, hentry, hd, hindex⟩ := read_entry hname hfirst hc rfl (by simp)
  have hlines : Line.block 2 (l :: ls) ++ (List.replicate n ' ' ++ tail) = List.replicate 2 ' ' ++
      (l.written ++ (Line.block 2 ls ++ (List.replicate n ' ' ++ tail))) := by
    simp [Line.block]
  rw [hlines] at hd
  have hnext := (hls l List.mem_cons_self).head_written
    (Line.block 2 ls ++ (List.replicate n ' ' ++ tail))
  obtain ⟨d', hadvance, hd'⟩ := advance_over_end
    [.blockMappingStart, .key, .scalar true (.ofChars name), .value] [0] false [] hd hindex
    (.inl rfl) nofun hnext
  rw [unwind_standing_of_le (by simp)] at hadvance
  obtain ⟨s, c', htrace, hnext, hc'⟩ := read_lines hls hadvance hd' (by simp) hkey hn
  exact ⟨s, c', hentry.append htrace, hnext, hc'⟩

end

end Scan

/-! ## Sheets -/

/-- Lines under a name, and lines beside it. -/
structure Sheet where
  name : List Char
  first : Line
  more : List Line
  others : List Line

namespace Sheet

/-- The name is a key, and all lines are sound. -/
structure IsSound (d : Sheet) : Prop where
  name : IsKey d.name
  under : ∀ l ∈ d.first :: d.more, l.IsSound
  others : ∀ l ∈ d.others, l.IsSound

/-- The sheet as it is written, with the lines under the name indented by two. -/
def written (d : Sheet) : List Char :=
  d.name ++ ':' :: '\n' :: (Line.block 2 (d.first :: d.more) ++ Line.block 0 d.others)

/-- The tokens of the sheet. -/
def tokens (d : Sheet) : List Token :=
  Scan.namedTokens d.name (d.first :: d.more) ++ [.blockEnd] ++ d.others.flatMap Line.tokens ++
    [.blockEnd]

end Sheet

/-- Lines that are not indented begin with a key, if there are any. -/
theorem Line.head_block {ls : List Line} (h : ∀ l ∈ ls, l.IsSound) :
    (Line.block 0 ls).head?.all isKeyChar = true := by
  cases ls with
  | nil => rfl
  | cons l ls => exact (h l List.mem_cons_self).head_written (Line.block 0 ls)

/-- Three tokens of a line are read in three steps, for which its text is long enough. -/
theorem Line.length_block (column : Nat) (ls : List Line) :
    3 * ls.length ≤ (Line.block column ls).length := by
  induction ls with
  | nil => exact Nat.zero_le _
  | cons l ls ih =>
    have hline : 3 ≤ l.written.length := by
      simp [Line.written]
      omega
    simp only [Line.block, List.flatMap_cons, List.length_append, List.length_cons] at ih ⊢
    omega

/-- **The tokens of a sheet.** -/
theorem Sheet.tokensOf_written {d : Sheet} (h : d.IsSound) : tokensOf d.written = d.tokens := by
  let start : Cursor := { rest := d.written }
  have hstart : start.IsAt (d.name ++ ':' :: '\n' :: (Line.block 2 (d.first :: d.more) ++
      (List.replicate 0 ' ' ++ Line.block 0 d.others))) 0 := ⟨rfl, rfl, rfl⟩
  obtain ⟨s, c, hunder, hnext, hc⟩ :=
    Scan.read_named h.name h.under (Line.head_block h.others) (Nat.zero_le 2) hstart
  rw [Scan.unwind_standing_cons (by decide), Scan.unwind_standing_of_le (by simp)] at hnext
  obtain ⟨s', c', hothers, hend, hc'⟩ := Scan.read_last_lines h.others hnext hc
  obtain ⟨fuel, hfuel⟩ : ∃ fuel, d.written.length = 2 + 3 * (d.more.length + 1) +
      3 * d.others.length + fuel := by
    have hsteps := Line.length_block 2 (d.first :: d.more)
    have hsteps' := Line.length_block 0 d.others
    refine Nat.exists_eq_add_of_le ?_
    simp only [written, List.length_append, List.length_cons] at hsteps ⊢
    omega
  have hrun : tokensOf d.written =
      Scan.run (d.written.length + 1) (Scan.standing start [] [] true none) := rfl
  rw [hrun, hfuel, Nat.add_assoc, (hunder.append hothers).run, Scan.run_at_end fuel hend hc']
  rfl

/-- **The tokens up to a line that cannot be read.**  What stops the text of the line is at fault,
whatever is behind it. -/
theorem Scan.tokensOf_stopped {name key text bad : List Char} {l : Line} {ls : List Line} {n : Nat}
    (hname : IsKey name) (hls : ∀ l' ∈ l :: ls, l'.IsSound) (hkey : IsKey key)
    (htext : IsInline text)
    (hbegin : ∃ x rest, text ++ (List.replicate n ' ' ++ bad) = x :: rest ∧
      Scan.beginsPlain false x rest = true)
    (hmark : text.getLast? = some ':' → atGap (List.replicate n ' ' ++ bad) = false)
    (hbad : IsStop bad) :
    tokensOf (name ++ ':' :: '\n' :: (Line.block 2 (l :: ls) ++ (List.replicate 2 ' ' ++
      (key ++ ':' :: ' ' :: (text ++ (List.replicate n ' ' ++ bad)))))) =
        namedTokens name (l :: ls ++ [⟨key, text, []⟩]) ++ [.broken .malformed] := by
  let stopped : List Char := text ++ (List.replicate n ' ' ++ bad)
  let written : List Char := name ++ ':' :: '\n' :: (Line.block 2 (l :: ls) ++
    (List.replicate 2 ' ' ++ (key ++ ':' :: ' ' :: stopped)))
  let start : Cursor := { rest := written }
  have hstart : start.IsAt written 0 := ⟨rfl, rfl, rfl⟩
  have hhead : (key ++ ':' :: ' ' :: stopped).head?.all isKeyChar = true := hkey.head_append _
  obtain ⟨s, c, hunder, hnext, hc⟩ := Scan.read_named hname hls hhead (Nat.le_refl 2) hstart
  rw [Scan.unwind_standing_of_le (by simp)] at hnext
  obtain ⟨c', hentry, hc', hindex⟩ := Scan.read_entry hkey hnext hc rfl (by simp)
  obtain ⟨fuel, hfuel⟩ : ∃ fuel, written.length + 1 = 2 + 3 * (ls.length + 1) + 2 + (fuel + 2) := by
    have hsteps := Line.length_block 2 (l :: ls)
    refine ⟨written.length - 5 - 3 * (ls.length + 1), ?_⟩
    simp only [written, List.length_append, List.length_cons, List.length_replicate] at hsteps ⊢
    omega
  have hrun : tokensOf written =
      Scan.run (written.length + 1) (Scan.standing start [] [] true none) := rfl
  have hcolumn : 2 ≤ 2 + key.length + 1 := by omega
  rw [hrun, hfuel, (hunder.append hentry).run]
  refine (run_at_stop fuel htext hbegin hmark hbad hc' hindex hcolumn).trans ?_
  simp [namedTokens, Line.tokens, opening]

end StagedLoad.Yaml

import StagedLoad.Json.Decode
import StagedLoad.Json.Encode

/-!
# JSON objects of texts

An object whose keys and values are texts is written on one line of printable ASCII, and is read
back from it.  JSON writes a character beyond the basic plane as two halves, so it cannot tell two
halves that stand side by side from the character that they make; every other text is read back as
it was.

* `Text.paired` : a text as JSON tells it.
* `Json.stringBody_encode` : a string is read back, whatever follows.
* `Json.decode?_encode_texts` : an object of texts is read back.
* `Json.isPrintable_encode_texts` : only printable ASCII is written.
-/

namespace StagedLoad

/-! ## Pairs of halves -/

/-- The character that two halves make, if they are the first and the second one of a pair. -/
def Symbol.pair? : Symbol → Symbol → Option Symbol
  | half high, half low =>
    if high.val < 0x400 ∧ 0x400 ≤ low.val then
      some (ofCode (0x10000 + high.val * 0x400 + (low.val - 0x400)))
    else none
  | _, _ => none

/-- The symbol is the first half of a pair. -/
def Symbol.IsFirst : Symbol → Prop
  | char _ => False
  | half n => n.val < 0x400

namespace Text

/-- The text with the halves of a pair that stand side by side put together. -/
def paired : Text → Text
  | [] => []
  | [x] => [x]
  | x :: y :: t =>
    match Symbol.pair? x y with
    | some c => c :: paired t
    | none => x :: paired (y :: t)

/-- No two halves in the text that stand side by side are a pair. -/
def IsWhole (t : Text) : Prop := ∀ x y : Symbol, (Symbol.pair? x y).isSome → ¬ [x, y] <:+: t

theorem IsWhole.tail {x : Symbol} {t : Text} (h : IsWhole (x :: t)) : IsWhole t :=
  fun y z hpair hpart => h y z hpair (List.infix_cons hpart)

/-- **A whole text is told as it is.** -/
theorem paired_of_isWhole {t : Text} (h : t.IsWhole) : t.paired = t := by
  fun_induction paired t with
  | case1 => rfl
  | case2 => rfl
  | case3 x y t c hpair ih =>
    have hpart : [x, y] <:+: x :: y :: t := List.IsPrefix.isInfix ⟨t, rfl⟩
    exact absurd hpart (h x y (by rw [hpair]; rfl))
  | case4 x y t hpair ih => rw [ih h.tail]

/-- A text of characters is whole. -/
theorem isWhole_ofString (s : String) : (ofString s).IsWhole := by
  intro x y hpair hpart
  have hmem : x ∈ ofString s := hpart.subset List.mem_cons_self
  obtain ⟨c, _, rfl⟩ := List.mem_map.mp hmem
  cases hpair

end Text

namespace Json

/-! ## Escapes -/

/-- A hexadecimal digit is read back. -/
theorem hexDigit?_lowerHexDigit {n : Nat} (hn : n < 16) : hexDigit? (lowerHexDigit n) = some n := by
  have hall : ∀ k : Fin 16, hexDigit? (lowerHexDigit k) = some k.val := by decide
  exact hall ⟨n, hn⟩

/-- The four digits of a unit are read back. -/
theorem unit?_lowerHex {n : Nat} (hn : n < 0x10000) (cs : List Char) :
    unit? (lowerHex 4 n ++ cs) = some (n, cs) := by
  have hvalue : digitsValue 16 0
      [n / 16 / 16 / 16 % 16, n / 16 / 16 % 16, n / 16 % 16, n % 16] = n := by
    simp only [digitsValue, List.foldl_cons, List.foldl_nil]
    omega
  have hdigit (m : Nat) : hexDigit? (lowerHexDigit (m % 16)) = some (m % 16) :=
    hexDigit?_lowerHexDigit (Nat.mod_lt m (by decide))
  simp only [lowerHex, List.nil_append, List.cons_append, unit?, List.mapM_cons, List.mapM_nil,
    hdigit, Option.bind_eq_bind, Option.bind_some, Option.pure_def, hvalue]

/-- A unit that is no first half of a pair is read back by itself. -/
theorem unitCode?_lowerHex {n : Nat} (hn : n < 0x10000) (hhigh : ¬ (0xD800 ≤ n ∧ n < 0xDC00))
    (cs : List Char) : unitCode? (lowerHex 4 n ++ cs) = some (n, cs) := by
  have hcond : (decide (0xD800 ≤ n) && decide (n < 0xDC00)) = false := by simpa using hhigh
  simp only [unitCode?, unit?_lowerHex hn, Option.bind_eq_bind, Option.bind_some, hcond]
  rfl

/-- Two units that are the halves of a pair are read as what they make. -/
theorem unitCode?_pair {high low : Nat} (hhigh : 0xD800 ≤ high ∧ high < 0xDC00)
    (hlow : 0xDC00 ≤ low ∧ low < 0xE000) (cs : List Char) :
    unitCode? (lowerHex 4 high ++ (unitEscape low ++ cs)) =
      some (0x10000 + (high - 0xD800) * 0x400 + (low - 0xDC00), cs) := by
  have hfirst : (decide (0xD800 ≤ high) && decide (high < 0xDC00)) = true := by simpa using hhigh
  have hsecond : (decide (0xDC00 ≤ low) && decide (low < 0xE000)) = true := by simpa using hlow
  simp only [unitCode?, unit?_lowerHex (show high < 0x10000 by omega), Option.bind_eq_bind,
    Option.bind_some, hfirst, if_true, unitEscape, List.cons_append,
    unit?_lowerHex (show low < 0x10000 by omega), hsecond]
  rfl

/-- What stands behind a first half is not read together with it. -/
def BeginsNoSecond (cs : List Char) : Prop :=
  ∀ more, cs = '\\' :: 'u' :: more →
    ∃ low rest, unit? more = some (low, rest) ∧ ¬ (0xDC00 ≤ low ∧ low < 0xE000)

/-- A first half without a second one is read back by itself. -/
theorem unitCode?_first {n : Nat} (hhigh : 0xD800 ≤ n ∧ n < 0xDC00) {cs : List Char}
    (hcs : BeginsNoSecond cs) : unitCode? (lowerHex 4 n ++ cs) = some (n, cs) := by
  have hcond : (decide (0xD800 ≤ n) && decide (n < 0xDC00)) = true := by simpa using hhigh
  simp only [unitCode?, unit?_lowerHex (show n < 0x10000 by omega), Option.bind_eq_bind,
    Option.bind_some, hcond, if_true]
  split
  · next more =>
    obtain ⟨low, rest, hlow, hno⟩ := hcs more rfl
    have hsecond : (decide (0xDC00 ≤ low) && decide (low < 0xE000)) = false := by simpa using hno
    rw [hlow]
    simp only [hsecond]
    rfl
  · rfl

/-! ## Characters -/

/-- The character is one of those from space to tilde. -/
def IsPrintable (c : Char) : Prop := ' ' ≤ c ∧ c ≤ '~'

instance (c : Char) : Decidable (IsPrintable c) := inferInstanceAs (Decidable (_ ∧ _))

/-- The ways to write a character. -/
inductive CharForm (c : Char) : List Char → Prop
  | plain (hprintable : IsPrintable c) (hquote : c ≠ '\x22') (hslash : c ≠ '\\') : CharForm c [c]
  | letter {e : Char} (hprintable : IsPrintable e) (hread : letterEscape? e = some c)
    (hunit : e ≠ 'u') : CharForm c ['\\', e]
  | unit (hunit : c.toNat < 0x10000) : CharForm c (unitEscape c.toNat)
  | pair (hpair : 0x10000 ≤ c.toNat) : CharForm c
    (unitEscape (0xD800 + (c.toNat - 0x10000) / 0x400) ++
      unitEscape (0xDC00 + (c.toNat - 0x10000) % 0x400))

/-- A backslash and the letter for the character are a way to write it. -/
theorem CharForm.of_letter {c d e : Char} (h : c.toNat = d.toNat) (hprintable : IsPrintable e)
    (hread : letterEscape? e = some d) (hunit : e ≠ 'u') : CharForm c ['\\', e] := by
  obtain rfl := Char.toNat_inj.mp h
  exact .letter hprintable hread hunit

/-- **Every character is written in one of these ways.** -/
theorem encodeChar_form (c : Char) : CharForm c (encodeChar c) := by
  unfold encodeChar
  simp only [Bool.or_eq_true, Bool.and_eq_true, decide_eq_true_eq]
  split
  · next h =>
    rcases h with h | h
    · obtain rfl : c = '\x22' := Char.toNat_inj.mp h
      exact .letter (by decide) rfl (by decide)
    · obtain rfl : c = '\\' := Char.toNat_inj.mp h
      exact .letter (by decide) rfl (by decide)
  · next hmark =>
    rw [not_or] at hmark
    split
    · next h =>
      refine .plain ⟨h.1, h.2⟩ ?_ ?_
      · rintro rfl
        exact hmark.1 rfl
      · rintro rfl
        exact hmark.2 rfl
    split
    · next h => exact .of_letter (d := '\n') h (by decide) rfl (by decide)
    split
    · next h => exact .of_letter (d := '\r') h (by decide) rfl (by decide)
    split
    · next h => exact .of_letter (d := '\t') h (by decide) rfl (by decide)
    split
    · next h => exact .of_letter (d := '\x08') h (by decide) rfl (by decide)
    split
    · next h => exact .of_letter (d := '\x0c') h (by decide) rfl (by decide)
    split
    · next h => exact .unit h
    · next h => exact .pair (Nat.le_of_not_lt h)

/-! ## Strings -/

section Reading

variable {fuel : Nat} {acc : Text} {cs : List Char}

/-- A character that is no quote and no backslash stands for itself. -/
theorem stringBody_plain {c : Char} (hquote : c ≠ '\x22') (hslash : c ≠ '\\') :
    stringBody (fuel + 1) acc (c :: cs) = stringBody fuel (.char c :: acc) cs := by
  rw [stringBody]
  · exact hquote
  · exact fun _ h _ => hslash h
  · exact fun _ _ h _ => hslash h

/-- A backslash and a letter stand for the character of the letter. -/
theorem stringBody_letter {c e : Char} (hread : letterEscape? e = some c) (hunit : e ≠ 'u') :
    stringBody (fuel + 1) acc ('\\' :: e :: cs) = stringBody fuel (.char c :: acc) cs := by
  rw [stringBody, hread]
  exact hunit

/-- An escape with a code that is not read together with the next one stands for it. -/
theorem stringBody_unit {n : Nat} {units rest : List Char}
    (hread : unitCode? units = some (n, rest)) :
    stringBody (fuel + 1) acc ('\\' :: 'u' :: units) = stringBody fuel (.ofCode n :: acc) rest := by
  rw [stringBody, hread]

/-- **A character is read back**, whatever follows it. -/
theorem stringBody_char (c : Char) :
    stringBody (fuel + 1) acc (encodeChar c ++ cs) = stringBody fuel (.char c :: acc) cs := by
  have hcode : Symbol.ofCode c.toNat = .char c := Symbol.ofCode_code (.char c)
  have hvalid : c.toNat.isValidChar := c.valid
  have hform := encodeChar_form c
  generalize encodeChar c = written at hform
  cases hform with
  | plain _ hquote hslash => exact stringBody_plain hquote hslash
  | letter _ hread hunit => exact stringBody_letter hread hunit
  | unit hunit =>
    have hhigh : ¬ (0xD800 ≤ c.toNat ∧ c.toNat < 0xDC00) := by
      simp only [Nat.isValidChar] at hvalid
      omega
    have hread := unitCode?_lowerHex hunit hhigh cs
    exact (stringBody_unit hread).trans (by rw [hcode])
  | pair hpair =>
    have hbound : c.toNat < 0x110000 := by
      simp only [Nat.isValidChar] at hvalid
      omega
    have hhigh : 0xD800 ≤ 0xD800 + (c.toNat - 0x10000) / 0x400 ∧
        0xD800 + (c.toNat - 0x10000) / 0x400 < 0xDC00 := by omega
    have hlow : 0xDC00 ≤ 0xDC00 + (c.toNat - 0x10000) % 0x400 ∧
        0xDC00 + (c.toNat - 0x10000) % 0x400 < 0xE000 := by omega
    have hvalue : 0x10000 + (0xD800 + (c.toNat - 0x10000) / 0x400 - 0xD800) * 0x400 +
        (0xDC00 + (c.toNat - 0x10000) % 0x400 - 0xDC00) = c.toNat := by omega
    have hread := unitCode?_pair hhigh hlow cs
    rw [hvalue] at hread
    rw [List.append_assoc]
    exact (stringBody_unit hread).trans (by rw [hcode])

/-- **A symbol is read back by itself** if no second half follows a first one. -/
theorem stringBody_symbol {x : Symbol} (hcs : x.IsFirst → BeginsNoSecond cs) :
    stringBody (fuel + 1) acc (encodeSymbol x ++ cs) = stringBody fuel (x :: acc) cs := by
  cases x with
  | char c => exact stringBody_char c
  | half n =>
    have hread : unitCode? (lowerHex 4 (Symbol.half n).code ++ cs) =
        some ((Symbol.half n).code, cs) := by
      by_cases hfirst : n.val < 0x400
      · apply unitCode?_first _ (hcs hfirst)
        simp only [Symbol.code, Symbol.firstHalf]
        omega
      · apply unitCode?_lowerHex <;>
          simp only [Symbol.code, Symbol.firstHalf] <;> omega
    exact (stringBody_unit hread).trans (by rw [Symbol.ofCode_code])

/-- An escape with another code is no second half. -/
theorem beginsNoSecond_unit {n : Nat} (hn : n < 0x10000) (hlow : ¬ (0xDC00 ≤ n ∧ n < 0xE000)) :
    BeginsNoSecond (unitEscape n ++ cs) := by
  intro more hmore
  obtain rfl : lowerHex 4 n ++ cs = more := (List.cons.inj (List.cons.inj hmore).2).2
  exact ⟨n, cs, unit?_lowerHex hn cs, hlow⟩

/-- A character does not begin with a second half. -/
theorem beginsNoSecond_char (c : Char) : BeginsNoSecond (encodeChar c ++ cs) := by
  have hvalid : c.toNat.isValidChar := c.valid
  simp only [Nat.isValidChar] at hvalid
  have hform := encodeChar_form c
  generalize encodeChar c = written at hform
  cases hform with
  | plain _ _ hslash => exact fun _ hmore => absurd (List.cons.inj hmore).1 hslash
  | letter _ _ hunit =>
    exact fun _ hmore => absurd (List.cons.inj (List.cons.inj hmore).2).1 hunit
  | unit hunit => exact beginsNoSecond_unit hunit (by omega)
  | pair hpair =>
    rw [List.append_assoc]
    exact beginsNoSecond_unit (by omega) (by omega)

/-- What is no second half to a first one does not begin with a second half. -/
theorem beginsNoSecond_symbol {x y : Symbol} (hx : x.IsFirst) (hpair : x.pair? y = none) :
    BeginsNoSecond (encodeSymbol y ++ cs) := by
  cases x with
  | char _ => exact hx.elim
  | half high =>
    cases y with
    | char c => exact beginsNoSecond_char c
    | half low =>
      have hlow : low.val < 0x400 := by
        simp only [Symbol.pair?, ite_eq_right_iff, reduceCtorEq, imp_false, not_and] at hpair
        exact Nat.lt_of_not_le (hpair hx)
      apply beginsNoSecond_unit <;>
        simp only [Symbol.code, Symbol.firstHalf] <;> omega

/-- Two halves that are a pair are read as the character that they make. -/
theorem stringBody_pair {x y c : Symbol} (hpair : x.pair? y = some c) :
    stringBody (fuel + 1) acc (encodeSymbol x ++ (encodeSymbol y ++ cs)) =
      stringBody fuel (c :: acc) cs := by
  cases x with
  | char _ => cases hpair
  | half high =>
    cases y with
    | char _ => cases hpair
    | half low =>
      simp only [Symbol.pair?, Option.ite_none_right_eq_some, Option.some.injEq] at hpair
      obtain ⟨⟨hfirst, hsecond⟩, rfl⟩ := hpair
      have hhigh : 0xD800 ≤ (Symbol.half high).code ∧ (Symbol.half high).code < 0xDC00 := by
        simp only [Symbol.code, Symbol.firstHalf]
        omega
      have hlow : 0xDC00 ≤ (Symbol.half low).code ∧ (Symbol.half low).code < 0xE000 := by
        simp only [Symbol.code, Symbol.firstHalf]
        omega
      have hread := unitCode?_pair hhigh hlow cs
      have hvalue : 0x10000 + ((Symbol.half high).code - 0xD800) * 0x400 +
          ((Symbol.half low).code - 0xDC00) =
            0x10000 + high.val * 0x400 + (low.val - 0x400) := by
        simp only [Symbol.code, Symbol.firstHalf]
        omega
      rw [hvalue] at hread
      exact stringBody_unit hread

/-- The end of a string is no second half. -/
theorem beginsNoSecond_quote : BeginsNoSecond ('\x22' :: cs) := fun _ hmore =>
  absurd (List.cons.inj hmore).1 (by decide)

/-- **A string is read back as JSON tells it**, whatever follows its closing mark. -/
theorem stringBody_encode {t : Text} (hfuel : t.length ≤ fuel) :
    stringBody (fuel + 1) acc (t.flatMap encodeSymbol ++ '\x22' :: cs) =
      some (acc.reverse ++ t.paired, cs) := by
  -- The reader goes on as `paired` does: a symbol is read alone, or with the one behind it.
  fun_induction Text.paired t generalizing fuel acc with
  | case1 =>
    rw [List.append_nil]
    rfl
  | case2 x =>
    obtain ⟨fuel, rfl⟩ := Nat.exists_eq_add_of_le' hfuel
    rw [List.flatMap_singleton, stringBody_symbol fun _ => beginsNoSecond_quote,
      ← List.reverse_cons]
    rfl
  | case3 x y t c hpair ih =>
    obtain ⟨fuel, rfl⟩ := Nat.exists_eq_add_of_le' (Nat.le_trans (Nat.le_add_left 1 _) hfuel)
    have hlen : t.length ≤ fuel := by
      simp only [List.length_cons] at hfuel
      omega
    rw [List.flatMap_cons, List.flatMap_cons, List.append_assoc, List.append_assoc,
      stringBody_pair hpair, ih hlen, List.reverse_cons, List.append_assoc]
    rfl
  | case4 x y t hpair ih =>
    obtain ⟨fuel, rfl⟩ := Nat.exists_eq_add_of_le' (Nat.le_trans (Nat.le_add_left 1 _) hfuel)
    have hnext : x.IsFirst →
        BeginsNoSecond ((y :: t).flatMap encodeSymbol ++ '\x22' :: cs) := by
      intro hx
      rw [List.flatMap_cons, List.append_assoc]
      exact beginsNoSecond_symbol hx hpair
    rw [List.flatMap_cons, List.append_assoc, stringBody_symbol hnext,
      ih (Nat.le_of_succ_le_succ hfuel), List.reverse_cons, List.append_assoc]
    rfl

end Reading

theorem encodeSymbol_ne_nil (x : Symbol) : encodeSymbol x ≠ [] := by
  cases x with
  | half n => exact List.cons_ne_nil _ _
  | char c =>
    have hform := encodeChar_form c
    show encodeChar c ≠ []
    generalize encodeChar c = written at hform
    cases hform <;> exact List.cons_ne_nil _ _

/-- A text is written with at least as many characters as it has symbols. -/
theorem length_le_encoded (t : Text) : t.length ≤ (t.flatMap encodeSymbol).length := by
  induction t with
  | nil => exact Nat.le_refl 0
  | cons x t ih =>
    have hpos := List.length_pos_iff.mpr (encodeSymbol_ne_nil x)
    rw [List.flatMap_cons, List.length_append, List.length_cons]
    omega

/-- A text is read back with the fuel that the rest of the line gives. -/
theorem stringBody_encodeText (t : Text) (cs : List Char) :
    let rest := t.flatMap encodeSymbol ++ '\x22' :: cs
    stringBody (rest.length + 1) [] rest = some (t.paired, cs) := by
  intro rest
  have hlen : t.length ≤ rest.length := by
    have hencoded := length_le_encoded t
    rw [List.length_append]
    omega
  exact stringBody_encode hlen

/-! ## Objects -/

/-- The entries with these texts. -/
def textEntries (es : List (Text × Text)) : Entries := es.map fun e => (.text e.1, .text e.2)

/-- What JSON tells of entries with these texts: of those whose keys it tells the same the last
value counts. -/
def toldEntries (acc : Entries) (es : List (Text × Text)) : Entries :=
  es.foldl (fun acc e => acc.put (.text e.1.paired) (.text e.2.paired)) acc

/-- An entry with these texts as JSON. -/
def encodedEntry (e : Text × Text) : List Char := encodeText e.1 ++ ':' :: ' ' :: encodeText e.2

/-- An object is its entries between braces. -/
theorem encode_texts (es : List (Text × Text)) :
    encode (.map (textEntries es)) = '\x7b' :: separated (es.map encodedEntry) ++ ['\x7d'] := by
  have hentries : encodeEntries (textEntries es) = es.map encodedEntry := by
    induction es with
    | nil => rfl
    | cons e es ih => exact congrArg (encodedEntry e :: ·) ih
  rw [encode, hentries]

/-- Members are written one by one, with separators between them. -/
theorem separated_cons (member next : List Char) (members : List (List Char)) :
    separated (member :: next :: members) =
      member ++ ',' :: ' ' :: separated (next :: members) := by
  simp [separated]

theorem skipBlanks_quote (cs : List Char) : skipBlanks ('\x22' :: cs) = '\x22' :: cs := rfl

/-- **A text is read back as a value**, whatever follows. -/
theorem value?_encodeText (fuel : Nat) (t : Text) (cs : List Char) :
    value? (fuel + 1) (encodeText t ++ cs) = some (.text t.paired, cs) := by
  have htext : encodeText t ++ cs = '\x22' :: (t.flatMap encodeSymbol ++ '\x22' :: cs) := by
    simp [encodeText]
  rw [htext, value?]
  simp only [skipBlanks_quote, stringBody_encodeText, Option.map_some]

/-- Blanks in front of an entry are passed over. -/
theorem entries?_blank (fuel : Nat) (acc : Entries) (cs : List Char) :
    entries? fuel acc (' ' :: cs) = entries? fuel acc cs := by
  cases fuel <;> rfl

/-- An entry is read back; a comma or the closing brace follows it. -/
theorem entries?_encodedEntry (fuel : Nat) (acc : Entries) (e : Text × Text) (cs : List Char) :
    entries? (fuel + 2) acc (encodedEntry e ++ ',' :: cs) =
        entries? (fuel + 1) (acc.put (.text e.1.paired) (.text e.2.paired)) cs ∧
      entries? (fuel + 2) acc (encodedEntry e ++ '\x7d' :: cs) =
        some (acc.put (.text e.1.paired) (.text e.2.paired), cs) := by
  have hentry (more : List Char) : encodedEntry e ++ more = '\x22' ::
      (e.1.flatMap encodeSymbol ++ '\x22' :: ':' :: ' ' :: (encodeText e.2 ++ more)) := by
    simp [encodedEntry, encodeText]
  have hvalue (more : List Char) : value? (fuel + 1) (' ' :: (encodeText e.2 ++ more)) =
    some (.text e.2.paired, more) := value?_encodeText fuel e.2 more
  have hcolon (more : List Char) : skipBlanks (':' :: more) = ':' :: more := rfl
  have hcomma : skipBlanks (',' :: cs) = ',' :: cs := rfl
  have hbrace : skipBlanks ('\x7d' :: cs) = '\x7d' :: cs := rfl
  constructor
  · rw [hentry, entries?]
    simp only [skipBlanks_quote, stringBody_encodeText, hcolon, hvalue, hcomma]
  · rw [hentry, entries?]
    simp only [skipBlanks_quote, stringBody_encodeText, hcolon, hvalue, hbrace]

/-- **The entries are read back up to the closing brace.** -/
theorem entries?_encode {fuel : Nat} {es : List (Text × Text)} (hes : es ≠ [])
    (hfuel : es.length < fuel) (acc : Entries) (cs : List Char) :
    entries? fuel acc (separated (es.map encodedEntry) ++ '\x7d' :: cs) =
      some (toldEntries acc es, cs) := by
  induction es generalizing fuel acc with
  | nil => exact absurd rfl hes
  | cons e es ih =>
    -- An entry takes one step of fuel, and its value takes one of what is left.
    obtain ⟨fuel, rfl⟩ := Nat.exists_eq_add_of_le' (show 2 ≤ fuel by
      simp only [List.length_cons] at hfuel
      omega)
    cases es with
    | nil =>
      have hlast : separated ([e].map encodedEntry) = encodedEntry e := by simp [separated]
      rw [hlast]
      exact (entries?_encodedEntry fuel acc e cs).2
    | cons next es =>
      have hnext := ih (List.cons_ne_nil _ _) (Nat.lt_of_succ_lt_succ hfuel)
        (acc.put (.text e.1.paired) (.text e.2.paired))
      rw [List.map_cons, List.map_cons, separated_cons, List.append_assoc]
      exact (entries?_encodedEntry fuel acc e _).1.trans ((entries?_blank _ _ _).trans hnext)

/-- Entries are written with at least as many characters as there are entries. -/
theorem length_le_separated (es : List (Text × Text)) :
    es.length ≤ (separated (es.map encodedEntry)).length := by
  have hpos : ∀ member ∈ es.map encodedEntry, 0 < member.length := by
    intro member hmember
    obtain ⟨e, _, rfl⟩ := List.mem_map.mp hmember
    exact Nat.succ_pos _
  rw [← List.length_map encodedEntry]
  generalize es.map encodedEntry = members at hpos
  induction members with
  | nil => exact Nat.le_refl 0
  | cons member members ih =>
    obtain ⟨hmember, hmembers⟩ := List.forall_mem_cons.mp hpos
    have hrest := ih hmembers
    cases members with
    | nil => simpa [separated, Nat.one_le_iff_ne_zero, Nat.pos_iff_ne_zero] using hmember
    | cons next members =>
      simp only [separated_cons, List.length_append, List.length_cons] at hrest ⊢
      omega

/-- Behind a brace and in front of a quote there are entries. -/
theorem value?_brace (fuel : Nat) (cs : List Char) :
    value? (fuel + 1) ('\x7b' :: '\x22' :: cs) =
      (entries? fuel [] ('\x22' :: cs)).map fun r => (.map r.1, r.2) := by
  have hbrace : skipBlanks ('\x7b' :: '\x22' :: cs) = '\x7b' :: '\x22' :: cs := rfl
  rw [value?]
  simp only [hbrace, skipBlanks_quote]
  rfl

/-- **An object of texts is read back as JSON tells it.** -/
theorem decode?_encode_texts (es : List (Text × Text)) :
    decode? (String.ofList (encode (.map (textEntries es)))) =
      some (.map (toldEntries [] es)) := by
  rw [decode?, String.toList_ofList, encode_texts]
  cases es with
  | nil => rfl
  | cons e es =>
    obtain ⟨cs, hcs⟩ : ∃ cs,
        separated ((e :: es).map encodedEntry) ++ ['\x7d'] = '\x22' :: cs := by
      cases es <;> simp [separated, encodedEntry, encodeText]
    have hfuel : (e :: es).length < cs.length + 2 := by
      have hmembers := length_le_separated (e :: es)
      have hlen := congrArg List.length hcs
      rw [List.length_append, List.length_cons, List.length_cons] at hlen
      omega
    have hentries := entries?_encode (List.cons_ne_nil e es) hfuel [] []
    rw [hcs] at hentries
    have hvalue : value? (cs.length + 3) ('\x7b' :: '\x22' :: cs) =
        some (.map (toldEntries [] (e :: es)), []) := by
      rw [value?_brace, hentries]
      rfl
    rw [List.cons_append, hcs, List.length_cons, List.length_cons]
    simp only [hvalue]
    rfl

/-! ## Printable lines -/

/-- A hexadecimal digit is printable. -/
theorem isPrintable_lowerHexDigit {n : Nat} (hn : n < 16) : IsPrintable (lowerHexDigit n) := by
  have hall : ∀ k : Fin 16, IsPrintable (lowerHexDigit k) := by decide
  exact hall ⟨n, hn⟩

theorem isPrintable_unitEscape {n : Nat} {c : Char} (hc : c ∈ unitEscape n) : IsPrintable c := by
  have hdigit (m : Nat) : IsPrintable (lowerHexDigit (m % 16)) :=
    isPrintable_lowerHexDigit (Nat.mod_lt m (by decide))
  simp only [unitEscape, lowerHex, List.nil_append, List.cons_append, List.mem_cons,
    List.not_mem_nil, or_false] at hc
  rcases hc with rfl | rfl | rfl | rfl | rfl | rfl
  · decide
  · decide
  all_goals exact hdigit _

theorem isPrintable_encodeSymbol {x : Symbol} {c : Char} (hc : c ∈ encodeSymbol x) :
    IsPrintable c := by
  cases x with
  | half n => exact isPrintable_unitEscape hc
  | char d =>
    replace hc : c ∈ encodeChar d := hc
    have hform := encodeChar_form d
    generalize encodeChar d = written at hform hc
    cases hform with
    | plain hprintable _ _ =>
      obtain rfl := List.mem_singleton.mp hc
      exact hprintable
    | letter hprintable _ _ =>
      rcases List.mem_cons.mp hc with rfl | hc
      · decide
      · obtain rfl := List.mem_singleton.mp hc
        exact hprintable
    | unit _ => exact isPrintable_unitEscape hc
    | pair _ =>
      rcases List.mem_append.mp hc with hc | hc <;> exact isPrintable_unitEscape hc

theorem isPrintable_encodeText {t : Text} {c : Char} (hc : c ∈ encodeText t) : IsPrintable c := by
  have hquote : IsPrintable '\x22' := by decide
  rw [encodeText, List.mem_append, List.mem_cons, List.mem_flatMap, List.mem_singleton] at hc
  rcases hc with (rfl | ⟨x, _, hx⟩) | rfl
  · exact hquote
  · exact isPrintable_encodeSymbol hx
  · exact hquote

theorem isPrintable_separated {members : List (List Char)} {c : Char}
    (hmembers : ∀ member ∈ members, ∀ c ∈ member, IsPrintable c) (hc : c ∈ separated members) :
    IsPrintable c := by
  induction members with
  | nil => cases hc
  | cons member members ih =>
    obtain ⟨hmember, hmembers⟩ := List.forall_mem_cons.mp hmembers
    cases members with
    | nil => exact hmember c (by simpa [separated] using hc)
    | cons next members =>
      rw [separated_cons, List.mem_append, List.mem_cons, List.mem_cons] at hc
      rcases hc with hc | rfl | rfl | hc
      · exact hmember c hc
      · decide
      · decide
      · exact ih hmembers hc

/-- **An object of texts is written in printable ASCII.** -/
theorem isPrintable_encode_texts {es : List (Text × Text)} {c : Char}
    (hc : c ∈ encode (.map (textEntries es))) : IsPrintable c := by
  rw [encode_texts, List.mem_append, List.mem_cons, List.mem_singleton] at hc
  rcases hc with (rfl | hc) | rfl
  · decide
  · refine isPrintable_separated ?_ hc
    intro member hmember d hd
    obtain ⟨e, _, rfl⟩ := List.mem_map.mp hmember
    rw [encodedEntry, List.mem_append, List.mem_cons, List.mem_cons] at hd
    rcases hd with hd | rfl | rfl | hd
    · exact isPrintable_encodeText hd
    · decide
    · decide
    · exact isPrintable_encodeText hd
  · decide

end Json

end StagedLoad

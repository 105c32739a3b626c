/-!
# Texts

A text is a list of symbols.  A symbol is a character, or a half of a surrogate pair that stands
alone: escapes in documents can write such a half, and a text keeps it, although it is no character
and has no bytes.

Two sets of blank characters are in use, and they are not the same.  The smaller one is the
Unicode property `White_Space`; the larger one adds the four information separators U+001C to
U+001F.  Table names and secrets are stripped by the larger set, numerals by the smaller one.

* `Text.string?_ofString` : the text of a string holds the string.
* `Text.ofString_inj` : different strings have different texts.
* `Symbol.ofCode_code` : a symbol is known by its code point.
* `strip` : a text without the blanks at its ends.
-/

namespace StagedLoad

/-- A symbol of a text. -/
inductive Symbol where
  | char (c : Char)
  /-- The half of a surrogate pair that has this number among all halves. -/
  | half (n : Fin 2048)
deriving DecidableEq, Repr, Inhabited

namespace Symbol

/-- The code point of the first half. -/
def firstHalf : Nat := 0xD800

/-- The code point of the symbol. -/
def code : Symbol → Nat
  | char c => c.toNat
  | half n => firstHalf + n

/-- The symbol with the code point. -/
def ofCode (n : Nat) : Symbol :=
  if n.isValidChar then char (Char.ofNat n) else half (Fin.ofNat 2048 (n - firstHalf))

/-- A symbol is known by its code point. -/
theorem ofCode_code (s : Symbol) : ofCode s.code = s := by
  cases s with
  | char c =>
    have h : c.toNat.isValidChar := c.valid
    simp [ofCode, code, h]
  | half n =>
    have hn := n.isLt
    have h : ¬ (firstHalf + n.val).isValidChar := by
      simp only [firstHalf, Nat.isValidChar]
      omega
    simp [ofCode, code, h]

/-- Whether the symbol is a character of the class. -/
def isChar (p : Char → Bool) : Symbol → Bool
  | char c => p c
  | half _ => false

/-- The character, if the symbol is one. -/
def char? : Symbol → Option Char
  | char c => some c
  | half _ => none

/-- The character; U+FFFD stands for a half. -/
def shown : Symbol → Char
  | char c => c
  | half _ => '\uFFFD'

instance : Coe Char Symbol := ⟨char⟩

end Symbol

/-- A text. -/
abbrev Text := List Symbol

namespace Text

/-- The text of characters. -/
def ofChars (cs : List Char) : Text := cs.map .char

/-- The text of a string. -/
def ofString (s : String) : Text := ofChars s.toList

instance : Coe String Text := ⟨ofString⟩

/-- The characters of a text that has no halves. -/
def chars? (t : Text) : Option (List Char) := t.mapM Symbol.char?

/-- The string of a text that has no halves. -/
def string? (t : Text) : Option String := t.chars?.map String.ofList

/-- The characters of a text, with U+FFFD for a half. -/
def shown (t : Text) : List Char := t.map Symbol.shown

/-- The texts with the separator between them. -/
def join (separator : Text) (parts : List Text) : Text := (parts.intersperse separator).flatten

/-- A text of characters has no halves. -/
theorem chars?_ofChars (cs : List Char) : (ofChars cs).chars? = some cs := by
  induction cs with
  | nil => rfl
  | cons c cs ih =>
    have h : (cs.map Symbol.char).mapM Symbol.char? = some cs := ih
    simp [ofChars, chars?, Symbol.char?, h]

/-- Different characters make different texts. -/
theorem ofChars_inj {cs cs' : List Char} (h : ofChars cs = ofChars cs') : cs = cs' := by
  have hchars := chars?_ofChars cs
  rw [h, chars?_ofChars] at hchars
  exact (Option.some.inj hchars).symm

theorem ofChars_append (cs cs' : List Char) : ofChars (cs ++ cs') = ofChars cs ++ ofChars cs' :=
  List.map_append

theorem shown_append (t t' : Text) : (t ++ t').shown = t.shown ++ t'.shown := List.map_append

/-- Characters are shown as they are. -/
theorem shown_ofChars (cs : List Char) : (ofChars cs).shown = cs := by
  rw [shown, ofChars, List.map_map]
  exact List.map_id cs

theorem shown_ofString (s : String) : (ofString s).shown = s.toList := shown_ofChars s.toList

/-- A text of characters is shown as it is. -/
theorem ofChars_shown {t : Text} {p : Char → Bool} (h : ∀ s ∈ t, s.isChar p = true) :
    ofChars t.shown = t := by
  rw [ofChars, shown, List.map_map]
  refine (List.map_congr_left fun s hs => ?_).trans (List.map_id t)
  cases s with
  | char c => rfl
  | half n => cases h _ hs

/-- The text of a string holds the string. -/
theorem string?_ofString (s : String) : (ofString s).string? = some s := by
  simp [string?, ofString, chars?_ofChars]

/-- Different strings have different texts. -/
theorem ofString_inj {s t : String} (h : ofString s = ofString t) : s = t := by
  have hs := string?_ofString s
  rw [h, string?_ofString t] at hs
  exact (Option.some.inj hs).symm

end Text

/-! ## Blank characters -/

/-- The characters with the property `White_Space`. -/
def isWhiteSpace (c : Char) : Bool :=
  let n := c.toNat
  (9 ≤ n && n ≤ 13) || n == 32 || n == 0x85 || n == 0xA0 || n == 0x1680 ||
    (0x2000 ≤ n && n ≤ 0x200A) || n == 0x2028 || n == 0x2029 || n == 0x202F ||
    n == 0x205F || n == 0x3000

/-- White space, and the information separators FS, GS, RS and US. -/
def isBlank (c : Char) : Bool :=
  isWhiteSpace c || (0x1C ≤ c.toNat && c.toNat ≤ 0x1F)

/-- Drops what is in the class from both ends. -/
def stripList {α : Type} (p : α → Bool) (xs : List α) : List α :=
  ((xs.dropWhile p).reverse.dropWhile p).reverse

/-- The text without blanks at its ends. -/
def strip (t : Text) : Text := stripList (Symbol.isChar isBlank) t

/-- Whether nothing is left of the text when it is stripped. -/
def isBlankText (t : Text) : Bool := t.all (Symbol.isChar isBlank)

end StagedLoad

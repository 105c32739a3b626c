import StagedLoad.Text

/-!
# Numerals

Digits in a base, and the decimal numerals of documents.  A decimal numeral may use the digits of
any script (general category Nd), may carry a sign, and may be surrounded by white space; one of
more than 4300 digits is refused.

* `mem_toString` : an integer is written with digits and a sign.
-/

namespace StagedLoad

/-- The code points of the zeros of all scripts; the digits one to nine follow each of them. -/
def digitZeros : List Nat := [
  48, 1632, 1776, 1984, 2406, 2534, 2662, 2790, 2918, 3046, 3174, 3302, 3430, 3558, 3664, 3792,
  3872, 4160, 4240, 6112, 6160, 6470, 6608, 6784, 6800, 6992, 7088, 7232, 7248, 42528, 43216,
  43264, 43472, 43504, 43600, 44016, 65296, 66720, 68912, 69734, 69872, 69942, 70096, 70384,
  70736, 70864, 71248, 71360, 71472, 71904, 72016, 72784, 73040, 73120, 92768, 92864, 93008,
  120782, 120792, 120802, 120812, 120822, 123200, 123632, 125264, 130032
]

/-- The value of a decimal digit of any script. -/
def decimalDigit? (c : Char) : Option Nat :=
  (digitZeros.find? fun z => z ≤ c.toNat && c.toNat ≤ z + 9).map (c.toNat - ·)

/-- The value of an ASCII digit in a base of at most sixteen. -/
def hexDigit? (c : Char) : Option Nat :=
  let n := c.toNat
  if 48 ≤ n && n ≤ 57 then some (n - 48)
  else if 97 ≤ n && n ≤ 102 then some (n - 87)
  else if 65 ≤ n && n ≤ 70 then some (n - 55)
  else none

/-- The digit of a value below sixteen, with lower-case letters. -/
def lowerHexDigit (n : Nat) : Char :=
  if n < 10 then Char.ofNat (48 + n) else Char.ofNat (87 + n)

/-- The digit of a value below sixteen, with capital letters. -/
def upperHexDigit (n : Nat) : Char :=
  if n < 10 then Char.ofNat (48 + n) else Char.ofNat (55 + n)

/-- The lower-case hexadecimal digits of `n`, padded with zeros to the width. -/
def lowerHex : Nat → Nat → List Char
  | 0, _ => []
  | width + 1, n => lowerHex width (n / 16) ++ [lowerHexDigit (n % 16)]

/-- The number with these digits, behind the digits read before. -/
def digitsValue (base : Nat) (acc : Nat) (digits : List Nat) : Nat :=
  digits.foldl (fun n d => n * base + d) acc

/-- A natural number is written with digits. -/
theorem isDigit_of_mem_repr {n : Nat} {c : Char} (hc : c ∈ n.repr.toList) : c.isDigit = true := by
  rw [Nat.toList_repr] at hc
  exact Nat.isDigit_of_mem_toDigits (by decide) (by decide) hc

/-- An integer is written with digits and a sign. -/
theorem mem_toString {n : Int} {c : Char} (hc : c ∈ (toString n).toList) :
    c = '-' ∨ c.isDigit = true := by
  cases n with
  | ofNat m => exact .inr (isDigit_of_mem_repr hc)
  | negSucc m =>
    have hc : c ∈ ("-" ++ m.succ.repr).toList := hc
    rw [String.toList_append, List.mem_append] at hc
    exact hc.imp List.mem_singleton.mp isDigit_of_mem_repr

/-- A natural number is read back from its digits. -/
theorem eq_of_repr {m n : Nat} (h : m.repr = n.repr) : m = n := by
  have hdigits : Nat.toDigits 10 m = Nat.toDigits 10 n := by
    simpa only [Nat.toList_repr] using congrArg String.toList h
  simpa using congrArg (Nat.ofDigitChars 10 · 0) hdigits

/-- A number with a sign is written like no number without one. -/
theorem repr_ne_minus (m n : Nat) : m.repr ≠ "-" ++ n.repr := by
  intro h
  have hsign : '-' ∈ m.repr.toList := by simp [h]
  exact absurd (isDigit_of_mem_repr hsign) (by decide)

/-- An integer is known by its numeral. -/
theorem eq_of_toString {m n : Int} (h : toString m = toString n) : m = n := by
  cases m with
  | ofNat m =>
    cases n with
    | ofNat n => exact congrArg Int.ofNat (eq_of_repr h)
    | negSucc n => exact absurd h (repr_ne_minus m n.succ)
  | negSucc m =>
    cases n with
    | ofNat n => exact absurd h.symm (repr_ne_minus n m.succ)
    | negSucc n =>
      have hdigits : m.succ.repr = n.succ.repr := (String.append_right_inj "-").mp h
      exact congrArg Int.negSucc (Nat.succ.inj (eq_of_repr hdigits))

/-- Reads a non-empty run of digits in the base. -/
def natInBase? (base : Nat) (cs : List Char) : Option Nat :=
  match cs with
  | [] => none
  | cs =>
    match cs.mapM fun c => (if base = 10 then decimalDigit? c else
        (hexDigit? c).orElse fun _ => decimalDigit? c).filter (· < base) with
    | none => none
    | some ds => some (digitsValue base 0 ds)

/-- The longest decimal numeral that is read, counted in digits. -/
def maxDecimalDigits : Nat := 4300

/-- Splits a leading sign off. -/
def takeSign : List Char → Bool × List Char
  | '-' :: cs => (true, cs)
  | '+' :: cs => (false, cs)
  | cs => (false, cs)

/-- Reads a numeral with an optional sign and white space around it; decimal ones are limited in
length. -/
def intInBase? (base : Nat) (cs : List Char) : Option Int :=
  let (negative, digits) := takeSign (stripList isWhiteSpace cs)
  if base = 10 && digits.length > maxDecimalDigits then none
  else (natInBase? base digits).map fun n => if negative then -(n : Int) else n

end StagedLoad

import StagedLoad.Number.Binary64

/-!
# Shortest decimal text

A finite number is written with the fewest decimal digits that read back as the same number, and
of those with the digits nearest to it.  The interval of reals that read back as `m * 2 ^ q` ends
half way to its two neighbours; its ends belong to it exactly when `m` is even.  On the decimal grid
of each step the two points around the number are tried, the coarsest grid first.
-/

namespace StagedLoad

namespace Shortest

/-- A number and the ends of the interval that reads back as it, over one denominator. -/
structure Interval where
  value : Nat
  low : Nat
  high : Nat
  den : Nat
  closed : Bool

/-- The interval of `m * 2 ^ q`.  Below a power of two the neighbour is only half as far away. -/
def Interval.of (m : Nat) (q : Int) : Interval :=
  let down := if m = Nat.pow 2 52 && q > -1074 then 1 else 2
  let (scale, den) := if 2 ≤ q then (Nat.pow 2 (q - 2).toNat, 1) else (1, Nat.pow 2 (2 - q).toNat)
  { value := 4 * m * scale, low := (4 * m - down) * scale, high := (4 * m + 2) * scale,
    den := den, closed := m % 2 == 0 }

/-- Measures the interval in units of `10 ^ k`, given as a denominator. -/
def Interval.onGrid (i : Interval) (k : Int) : Interval :=
  if 0 ≤ k then { i with den := i.den * Nat.pow 10 k.toNat }
  else
    let up := Nat.pow 10 (-k).toNat
    { i with value := i.value * up, low := i.low * up, high := i.high * up }

/-- Whether `d` units lie in the interval. -/
def Interval.holds (i : Interval) (d : Nat) : Bool :=
  let x := d * i.den
  if i.closed then i.low ≤ x && x ≤ i.high else i.low < x && x < i.high

/-- The greatest `k` with `10 ^ k` at most the number; the logarithm gives it up to one. -/
def Interval.decimalExponent (i : Interval) : Int :=
  let guess := ((Nat.log2 i.value : Int) - Nat.log2 i.den) * 30103 / 100000
  let atMost (k : Int) : Bool :=
    if 0 ≤ k then i.den * Nat.pow 10 k.toNat ≤ i.value
    else i.den ≤ i.value * Nat.pow 10 (-k).toNat
  if atMost (guess + 1) then guess + 1 else if atMost guess then guess else guess - 1

/-- The point of the grid that is in the interval, the nearer of two, the even one of a tie. -/
def Interval.pick? (i : Interval) : Option Nat :=
  let d := i.value / i.den
  match i.holds d, i.holds (d + 1) with
  | false, false => none
  | true, false => some d
  | false, true => some (d + 1)
  | true, true =>
    let twice := 2 * i.value
    let middle := (2 * d + 1) * i.den
    if twice < middle then some d
    else if middle < twice then some (d + 1)
    else some (if d % 2 = 0 then d else d + 1)

/-- Tries the grids with one digit, two digits and so on; seventeen always suffice. -/
def search (i : Interval) (k : Int) : Nat → Nat × Int
  | 0 => ((i.onGrid k).value / (i.onGrid k).den, k)
  | fuel + 1 =>
    match (i.onGrid k).pick? with
    | some d => (d, k)
    | none => search i (k - 1) fuel

/-- Takes zeros off the end of the digits. -/
def dropZeros : Nat → Nat → Int → Nat × Int
  | 0, d, k => (d, k)
  | fuel + 1, d, k => if d % 10 = 0 && d ≠ 0 then dropZeros fuel (d / 10) (k + 1) else (d, k)

/-- The digits and the exponent of ten of a number `m * 2 ^ q` other than zero. -/
def digits (m : Nat) (q : Int) : Nat × Int :=
  let i := Interval.of m q
  let (d, k) := search i i.decimalExponent 17
  dropZeros 20 d k

/-- How digits are laid out: which exponents are written positionally, and the least number of
digits of an exponent. -/
structure Layout where
  least : Int
  below : Int
  exponentWidth : Nat

/-- Positional from one ten-thousandth up to ten to the sixteenth, otherwise an exponent of at
least two digits. -/
def layout : Layout := ⟨-4, 16, 2⟩

/-- The digits of a number, most significant first. -/
def decimal (n : Nat) : List Char := Nat.toDigits 10 n

/-- Zeros in front of the digits up to the width. -/
def padded (width : Nat) (cs : List Char) : List Char :=
  List.replicate (width - cs.length) '0' ++ cs

/-- Lays out `d * 10 ^ k`; a positional text always has a point. -/
def Layout.write (l : Layout) (d : Nat) (k : Int) : List Char :=
  let ds := decimal d
  let top := (ds.length : Int) - 1 + k
  if l.least ≤ top && top < l.below then
    if 0 ≤ k then ds ++ List.replicate k.toNat '0' ++ ['.', '0']
    else if 0 ≤ top then ds.take (top.toNat + 1) ++ '.' :: ds.drop (top.toNat + 1)
    else '0' :: '.' :: List.replicate (-top - 1).toNat '0' ++ ds
  else
    let mantissa := match ds with
      | [] => []
      | [c] => [c]
      | c :: cs => c :: '.' :: cs
    let sign := if top < 0 then '-' else '+'
    mantissa ++ 'e' :: sign :: padded l.exponentWidth (decimal top.natAbs)

end Shortest

/-- The shortest text of a number, with the given words for infinity and for no number. -/
def Binary64.textWith (infinite none : String) (x : Binary64) : String :=
  let sign := if x.isNegative then "-" else ""
  match x.magnitude? with
  | Option.none => if x.isNaN then none else sign ++ infinite
  | some (0, _) => sign ++ "0.0"
  | some (m, q) =>
    let (d, k) := Shortest.digits m q
    sign ++ String.ofList (Shortest.layout.write d k)

/-- The shortest text of a number. -/
def Binary64.text (x : Binary64) : String := x.textWith "inf" "nan"

end StagedLoad

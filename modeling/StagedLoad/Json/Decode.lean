import StagedLoad.Text.Numeral
import StagedLoad.Value

/-!
# Reading JSON

`Json.decode?` reads one JSON text.  A number with a point or an exponent is floating-point, any
other one an integer of any size; two escaped surrogates that belong together are one character, and
a half that stands alone stays a half.  A key that comes again replaces the value read before.
-/

namespace StagedLoad

namespace Json

/-- Skips the four blanks of JSON. -/
def skipBlanks (cs : List Char) : List Char :=
  cs.dropWhile fun c => c == ' ' || c == '\n' || c == '\r' || c == '\t'

/-- Four hexadecimal digits. -/
def unit? : List Char → Option (Nat × List Char)
  | a :: b :: c :: d :: cs => do
    let ds ← [a, b, c, d].mapM hexDigit?
    return (digitsValue 16 0 ds, cs)
  | _ => none

/-- The code point of a unit escape, with what follows it. -/
def unitCode? (cs : List Char) : Option (Nat × List Char) := do
  let (high, cs) ← unit? cs
  if 0xD800 ≤ high && high < 0xDC00 then
    match cs with
    | '\\' :: 'u' :: more =>
      match unit? more with
      | some (low, rest) =>
        if 0xDC00 ≤ low && low < 0xE000 then
          return (0x10000 + (high - 0xD800) * 0x400 + (low - 0xDC00), rest)
        else return (high, cs)
      | none => none
    | _ => return (high, cs)
  else return (high, cs)

/-- The character of an escape of one letter. -/
def letterEscape? (c : Char) : Option Char :=
  match c with
  | '\x22' => some '\x22'
  | '\\' => some '\\'
  | '/' => some '/'
  | 'b' => some '\x08'
  | 'f' => some '\x0c'
  | 'n' => some '\n'
  | 'r' => some '\r'
  | 't' => some '\t'
  | _ => none

/-- Reads the rest of a string; `acc` holds its symbols so far, the last one first. -/
def stringBody : Nat → Text → List Char → Option (Text × List Char)
  | 0, _, _ => none
  | _ + 1, _, [] => none
  | _ + 1, acc, '\x22' :: cs => some (acc.reverse, cs)
  | fuel + 1, acc, '\\' :: 'u' :: cs =>
    match unitCode? cs with
    | some (n, rest) => stringBody fuel (.ofCode n :: acc) rest
    | none => none
  | fuel + 1, acc, '\\' :: e :: cs =>
    match letterEscape? e with
    | some c => stringBody fuel (.char c :: acc) cs
    | none => none
  | fuel + 1, acc, c :: cs => stringBody fuel (.char c :: acc) cs

/-- Splits off a run of ASCII digits. -/
def spanDigits (cs : List Char) : List Char × List Char :=
  (cs.takeWhile Char.isDigit, cs.dropWhile Char.isDigit)

/-- The number with these ASCII digits. -/
def asciiNat (ds : List Char) : Nat :=
  digitsValue 10 0 (ds.map fun c => c.toNat - 48)

/-- Reads a number behind its sign. -/
def number? (negative : Bool) (cs : List Char) : Option (Value × List Char) :=
  let (whole, cs) := spanDigits cs
  if whole.isEmpty then none
  else
    let (fraction, cs, pointed) := match cs with
      | '.' :: more => ((spanDigits more).1, (spanDigits more).2, true)
      | _ => ([], cs, false)
    let (exponent, cs, powered) := match cs with
      | 'e' :: more => readExponent more
      | 'E' :: more => readExponent more
      | _ => ((0 : Int), cs, false)
    if pointed || powered then
      let x := Binary64.ofDecimal (asciiNat (whole ++ fraction)) (exponent - fraction.length)
      some (.float (if negative then x.negate else x), cs)
    else
      let n : Int := asciiNat whole
      some (.int (if negative then -n else n), cs)
where
  readExponent (cs : List Char) : Int × List Char × Bool :=
    let (sign, cs) := takeSign cs
    let (ds, cs) := spanDigits cs
    let n : Int := asciiNat ds
    (if sign then -n else n, cs, true)

/-- What follows a word, if the text starts with it. -/
def afterWord? (word : String) (cs : List Char) : Option (List Char) :=
  let w := word.toList
  if w.isPrefixOf cs then some (cs.drop w.length) else none

/-- The words of JSON. -/
def word? (cs : List Char) : Option (Value × List Char) :=
  let words : List (String × Value) := [
    ("null", .null), ("true", .bool true), ("false", .bool false), ("NaN", .float Binary64.nan),
    ("Infinity", .float Binary64.infinity), ("-Infinity", .float Binary64.infinity.negate)]
  words.findSome? fun (w, v) => (afterWord? w cs).map (v, ·)

mutual

/-- Reads a value; the first argument bounds the steps. -/
def value? : Nat → List Char → Option (Value × List Char)
  | 0, _ => none
  | fuel + 1, cs =>
    match skipBlanks cs with
    | '\x22' :: rest => (stringBody (rest.length + 1) [] rest).map fun (t, cs) => (.text t, cs)
    | '[' :: rest =>
      match skipBlanks rest with
      | ']' :: cs => some (.list [], cs)
      | cs => (members? fuel [] cs).map fun (xs, cs) => (.list xs, cs)
    | '\x7b' :: rest =>
      match skipBlanks rest with
      | '\x7d' :: cs => some (.map [], cs)
      | cs => (entries? fuel [] cs).map fun (es, cs) => (.map es, cs)
    | cs =>
      match word? cs with
      | some r => some r
      | none =>
        match cs with
        | '-' :: rest => number? true rest
        | _ => number? false cs

/-- Reads the members of a list up to its bracket. -/
def members? : Nat → List Value → List Char → Option (List Value × List Char)
  | 0, _, _ => none
  | fuel + 1, acc, cs =>
    match value? fuel cs with
    | none => none
    | some (v, cs) =>
      match skipBlanks cs with
      | ',' :: cs => members? fuel (v :: acc) cs
      | ']' :: cs => some ((v :: acc).reverse, cs)
      | _ => none

/-- Reads the entries of a map up to its brace. -/
def entries? : Nat → Entries → List Char → Option (Entries × List Char)
  | 0, _, _ => none
  | fuel + 1, acc, cs =>
    match skipBlanks cs with
    | '\x22' :: rest =>
      match stringBody (rest.length + 1) [] rest with
      | none => none
      | some (key, cs) =>
        match skipBlanks cs with
        | ':' :: cs =>
          match value? fuel cs with
          | none => none
          | some (v, cs) =>
            let acc := Entries.put (.text key) v acc
            match skipBlanks cs with
            | ',' :: cs => entries? fuel acc cs
            | '\x7d' :: cs => some (acc, cs)
            | _ => none
        | _ => none
    | _ => none

end

/-- The value of a JSON text. -/
def decode? (s : String) : Option Value :=
  let cs := s.toList
  match value? (cs.length + 1) cs with
  | some (v, rest) => if (skipBlanks rest).isEmpty then some v else none
  | none => none

end Json

end StagedLoad

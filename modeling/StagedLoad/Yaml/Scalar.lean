import StagedLoad.Text.Bytes
import StagedLoad.Text.Split
import StagedLoad.Yaml.Node.Resolve
import StagedLoad.Yaml.Token

/-!
# Values of scalars

What a scalar with a tag denotes.  The forms are wider than those by which a tag is implied: an
explicit tag can be put on any text, and the text then denotes a value or is a fault.
-/

namespace StagedLoad.Yaml

/-- A truth value by its word, in letters of any case. -/
def truthScalar (cs : List Char) : Except DocumentFault Value :=
  let word := String.ofList (cs.map Char.toLower)
  if ["yes", "true", "on"].contains word then .ok (.bool true)
  else if ["no", "false", "off"].contains word then .ok (.bool false)
  else .error .noTruthWord

/-- An integer in a base other than ten, which may have its mark behind a zero in front. -/
def markedInteger? (base : Nat) (mark : Char) (cs : List Char) : Option Int :=
  let (negative, digits) := takeSign (stripList isWhiteSpace cs)
  let digits := match digits with
    | zero :: c :: rest =>
      if decimalDigit? zero = some 0 && c.toLower = mark then rest else digits
    | _ => digits
  (natInBase? base digits).map fun n => if negative then -(n : Int) else n

/-- The integer behind the sign: binary, hexadecimal, octal after a zero, in base sixty with colons,
or decimal. -/
def unsignedInteger? (cs : List Char) : Option Int :=
  match cs with
  | '0' :: 'b' :: rest => markedInteger? 2 'b' rest
  | '0' :: 'x' :: rest => markedInteger? 16 'x' rest
  | '0' :: _ => markedInteger? 8 'o' cs
  | _ =>
    if cs.contains ':' then
      ((partsOf ':' cs).mapM (intInBase? 10)).map fun parts => parts.foldl (fun n d => n * 60 + d) 0
    else intInBase? 10 cs

/-- An integer; underscores are ignored. -/
def integerScalar (cs : List Char) : Except DocumentFault Value :=
  let (negative, cs) := takeSign (cs.filter (· != '_'))
  if cs.isEmpty then .error .emptyNumber
  else
    match unsignedInteger? cs with
    | some n => .ok (.int (if negative then -n else n))
    | none => .error .noSuchValue

/-- The digits of a decimal numeral and its exponent of ten: whole part, fraction, exponent. -/
def decimalParts? (cs : List Char) : Option (Nat × Int) := do
  let whole := cs.takeWhile fun c => (decimalDigit? c).isSome
  let cs := cs.drop whole.length
  let (fraction, cs) := match cs with
    | '.' :: cs =>
      let ds := cs.takeWhile fun c => (decimalDigit? c).isSome
      (ds, cs.drop ds.length)
    | _ => ([], cs)
  let digits ← natInBase? 10 (whole ++ fraction)
  let exponent : Int ← match cs with
    | [] => some 0
    | c :: cs =>
      if c = 'e' then
        let (negative, ds) := takeSign cs
        (natInBase? 10 ds).map fun n => if negative then -(n : Int) else n
      else none
  return (digits, exponent - fraction.length)

/-- A floating-point number in lower-case letters, with a sign or without. -/
def decimalFloat? (cs : List Char) : Option Binary64 :=
  let (negative, cs) := takeSign (stripList isWhiteSpace cs)
  let magnitude : Option Binary64 := match String.ofList cs with
    | "inf" => some Binary64.infinity
    | "infinity" => some Binary64.infinity
    | "nan" => some Binary64.nan
    | _ => (decimalParts? cs).map fun (digits, exponent) => Binary64.ofDecimal digits exponent
  magnitude.map fun x => if negative then x.negate else x

/-- The sum of parts in base sixty, from the last one on, and the weight of the next part.  A weight
beyond the largest number cannot be used. -/
def sexagesimalSum : Nat → Float → List Binary64 → Except DocumentFault Binary64
  | _, sum, [] => .ok (.ofFloat sum)
  | weight, sum, x :: xs =>
    let w := Binary64.ofDecimal weight 0
    if w.isInfinite then .error .overflow
    else sexagesimalSum (weight * 60) (sum + x.toFloat * w.toFloat) xs

/-- The floating-point number behind the sign. -/
def unsignedFloat (cs : List Char) : Except DocumentFault Binary64 :=
  if cs = ".inf".toList then .ok .infinity
  else if cs = ".nan".toList then .ok .nan
  else if cs.contains ':' then
    match (partsOf ':' cs).mapM decimalFloat? with
    | some parts => sexagesimalSum 1 0 parts.reverse
    | none => .error .noSuchValue
  else
    match decimalFloat? cs with
    | some x => .ok x
    | none => .error .noSuchValue

/-- A floating-point number; underscores and the case of letters are ignored.  Written with a point
in front, what stands for no number is always the same; any other text of it has the number that is
given. -/
def floatScalar (number : Nat) (cs : List Char) : Except DocumentFault Value :=
  let all := (cs.map Char.toLower).filter (· != '_')
  if all.isEmpty then .error .emptyNumber
  else
    let (negative, cs) := takeSign all
    (unsignedFloat cs).map fun x =>
      .float (if x.isNaN then (if cs = ".nan".toList then .nan else .nanNumbered number)
        else if negative then x.negate else x)

/-- Bytes in Base64. -/
def binaryScalar (cs : List Char) : Except DocumentFault Value :=
  if cs.any fun c => 128 ≤ c.toNat then .error .malformed
  else
    match Base64.decode? cs with
    | some bs => .ok (.bytes bs)
    | none => .error .malformed

/-- A day or a moment. -/
def timestampScalar (cs : List Char) : Except DocumentFault Value :=
  match writtenDate? (dropFinalBreak cs) with
  | none => .error .noDateForm
  | some x =>
    match x.value? with
    | some v => .ok v
    | none => .error .noSuchValue

/-- What a scalar with the number and with one of the tags for scalars denotes.  A half of a
surrogate pair belongs to nothing but texts. -/
def scalarValue (tag : Tag) (number : Nat) (text : Text) : Except DocumentFault Value :=
  match tag with
  | .null => .ok .null
  | .bool => truthScalar text.shown
  | .int => integerScalar text.shown
  | .float => floatScalar number text.shown
  | .binary => binaryScalar text.shown
  | .timestamp => timestampScalar text.shown
  | .text => .ok (.text text)
  | _ => .error .malformed

end StagedLoad.Yaml

import StagedLoad.Settings.Checked
import StagedLoad.Text.Bytes
import StagedLoad.Text.Numeral
import StagedLoad.Value

/-!
# Integers of settings

An integer may be given as an integer, a truth value, a number without a fraction, or a text.  A
text may have white space around it, a sign, zeros in front, a point with zeros behind it, and
single underscores between digits.
-/

namespace StagedLoad

namespace IntegerText

/-- A non-empty run of digits without needless zeros. -/
def canonicalNat? : List Char → Option Nat
  | [] => none
  | ['0'] => some 0
  | '0' :: _ => none
  | cs => if cs.all Char.isDigit then natInBase? 10 cs else none

/-- The same with a minus sign allowed. -/
def canonical? : List Char → Option Int
  | '-' :: cs => (canonicalNat? cs).map fun n => -(n : Int)
  | cs => (canonicalNat? cs).map fun n => (n : Int)

/-- Drops zeros, and underscores between them, behind a first zero; one character stays in front of
a point and at the end.  A minus sign behind the zeros is taken for the beginning of the numeral. -/
def dropZerosBehind (last : Char) : List Char → Option (List Char)
  | [] => some [last]
  | c :: cs =>
    if c = '0' || c = '_' then dropZerosBehind c cs
    else if c.isDigit || c = '-' then some (c :: cs)
    else if c = '.' then some (last :: c :: cs)
    else none

/-- Drops zeros in front of a numeral; a text that does not begin with a digit is refused. -/
def dropLeadingZeros : List Char → Option (List Char)
  | [] => none
  | c :: cs =>
    if c = '0' then dropZerosBehind c cs
    else if c.isDigit then some (c :: cs)
    else none

/-- Drops a point with zeros behind it, of which there is at least one, and nothing else. -/
def dropZeroFraction (cs : List Char) : List Char :=
  match cs.dropWhile (· != '.') with
  | _ :: '0' :: fraction =>
    if fraction.all (· == '0') then cs.takeWhile (· != '.') else cs
  | _ => cs

/-- Whether two underscores stand side by side. -/
def hasDoubledUnderscore : List Char → Bool
  | '_' :: '_' :: _ => true
  | _ :: cs => hasDoubledUnderscore cs
  | [] => false

/-- Drops underscores, if they all stand alone and inside. -/
def dropUnderscores (cs : List Char) : List Char :=
  if cs.head? == some '_' || cs.getLast? == some '_' || hasDoubledUnderscore cs then cs
  else cs.filter (· != '_')

/-- The digits of a numeral without what a reader may ignore. -/
def cleanedDigits? (cs : List Char) : Option (List Char) :=
  (dropLeadingZeros cs).map fun cs => dropUnderscores (dropZeroFraction cs)

/-- The numeral without what a reader may ignore. -/
def cleaned? (cs : List Char) : Option (List Char) :=
  match stripList isWhiteSpace cs with
  | '+' :: rest => cleanedDigits? rest
  | '-' :: rest => (cleanedDigits? rest).map ('-' :: ·)
  | cs => cleanedDigits? cs

/-- The number of characters of the integer that a text begins with, a minus sign included; a zero
begins none. -/
def leadingLength : List Char → Nat
  | '0' :: _ => 0
  | '-' :: '0' :: _ => 0
  | '-' :: cs => 1 + (cs.takeWhile Char.isDigit).length
  | cs => (cs.takeWhile Char.isDigit).length

/-- Reads an integer that is given as a text.  A text that begins with an integer of too many
characters is too large, whatever follows; one that grows too long only once it is cleaned is no
integer. -/
def read (cs : List Char) : Except Reason Int :=
  if leadingLength cs > maxDecimalDigits then .error .tooLarge
  else
    match cleaned? cs with
    | none => .error .notIntegerText
    | some cs =>
      match canonical? cs with
      | none => .error .notIntegerText
      | some n => if cs.length > maxDecimalDigits then .error .notIntegerText else .ok n

end IntegerText

/-- Reads an integer that is given as a floating-point number, which must lie strictly between the
ends of the range of 64 bits. -/
def integerOfFloat (x : Binary64) : Except Reason Int :=
  if x.isNaN || x.isInfinite then .error .notFinite
  else
    match x.toInt? with
    | none => .error .fractional
    | some n => if -Int.pow 2 63 < n && n < Int.pow 2 63 then .ok n else .error .tooLarge

/-- Reads an integer of the settings. -/
def readInteger : Value → Except Reason Int
  | .int n => .ok n
  | .bool b => .ok (if b then 1 else 0)
  | .float x => integerOfFloat x
  | .text t =>
    match t.chars? with
    | some cs => IntegerText.read cs
    | none => .error .notUtf8
  | .bytes bs =>
    match (utf8Text? bs).bind Text.chars? with
    | some cs => IntegerText.read cs
    | none => .error .notIntegerText
  | _ => .error .notInteger

end StagedLoad

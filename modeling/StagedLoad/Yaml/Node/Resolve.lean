import StagedLoad.Text.Numeral
import StagedLoad.Yaml.Node
import StagedLoad.Yaml.Timestamp

/-!
# Implied tags

The tag of a plain scalar without one follows from how it is written.  The forms are tried one after
the other: truth values, floating-point numbers, integers, the merge key, nothing, dates and times,
the value key.  What has none of these forms is a text.
-/

namespace StagedLoad.Yaml

/-- The text behind one such character. -/
def afterOne (p : Char → Bool) : List Char → Option (List Char)
  | c :: cs => if p c then some cs else none
  | [] => none

/-- The text behind an optional sign. -/
def afterSign (cs : List Char) : List Char :=
  (afterOne (fun c => c == '+' || c == '-') cs).getD cs

/-- Whether the character is a digit or an underscore. -/
def isDigitOrGap (c : Char) : Bool := c.isDigit || c == '_'

/-- Whether the text is a run of groups of base sixty, each a colon and one digit or two of which
the first is below six, in front of what satisfies the condition. -/
def sixties (atEnd : List Char → Bool) : Nat → List Char → Bool
  | 0, _ => false
  | fuel + 1, cs =>
    match cs with
    | ':' :: a :: cs =>
      let one := a.isDigit && (atEnd cs || sixties atEnd fuel cs)
      let two := a.isDigit && a.toNat < 54 && (afterOne Char.isDigit cs).any fun cs =>
        atEnd cs || sixties atEnd fuel cs
      one || two
    | _ => false

/-- Whether the text is a fraction: a point, and digits and underscores only. -/
def isFraction : List Char → Bool
  | '.' :: cs => cs.all isDigitOrGap
  | _ => false

/-- Whether nothing is left but, possibly, an exponent. -/
def isExponent (cs : List Char) : Bool :=
  match cs with
  | [] => true
  | e :: sign :: cs =>
    (e == 'e' || e == 'E') && (sign == '+' || sign == '-') && !cs.isEmpty && cs.all Char.isDigit
  | _ => false

/-- Whether the text is written as a truth value. -/
def isTruthForm (cs : List Char) : Bool :=
  ["yes", "Yes", "YES", "no", "No", "NO", "true", "True", "TRUE", "false", "False", "FALSE", "on",
    "On", "ON", "off", "Off", "OFF"].contains (String.ofList cs)

/-- Whether the text is written as a floating-point number. -/
def isFloatForm (cs : List Char) : Bool :=
  let signed := afterSign cs
  let decimal := match signed.head?.filter Char.isDigit, signed.dropWhile isDigitOrGap with
    | some _, '.' :: rest => isExponent (rest.dropWhile isDigitOrGap)
    | _, _ => false
  let pointFirst := match cs with
    | '.' :: d :: rest => d.isDigit && isExponent (rest.dropWhile isDigitOrGap)
    | _ => false
  let sexagesimal := signed.head?.any Char.isDigit &&
    sixties isFraction cs.length (signed.dropWhile isDigitOrGap)
  decimal || pointFirst || sexagesimal ||
    [".inf", ".Inf", ".INF"].contains (String.ofList signed) ||
    [".nan", ".NaN", ".NAN"].contains (String.ofList cs)

/-- Whether the text is written as an integer. -/
def isIntForm (cs : List Char) : Bool :=
  match afterSign cs with
  | ['0'] => true
  | '0' :: 'b' :: rest => !rest.isEmpty && rest.all fun c => c == '0' || c == '1' || c == '_'
  | '0' :: 'x' :: rest => !rest.isEmpty && rest.all fun c => (hexDigit? c).isSome || c == '_'
  | '0' :: rest => rest.all fun c => ('0' ≤ c && c ≤ '7') || c == '_'
  | c :: rest =>
    let rest := rest.dropWhile isDigitOrGap
    c.isDigit && (rest.isEmpty || sixties List.isEmpty cs.length rest)
  | [] => false

/-- Whether the text is written as a date; without a time of day, month and day need two digits. -/
def isTimestampForm (cs : List Char) : Bool :=
  (writtenDate? cs).any fun x => x.wide || x.time.isSome

/-- The forms with their tags, in the order in which they are tried. -/
def forms : List ((List Char → Bool) × Tag) :=
  [(isTruthForm, .bool), (isFloatForm, .float), (isIntForm, .int), ((· == ['<', '<']), .merge),
    (fun cs => ["", "~", "null", "Null", "NULL"].contains (String.ofList cs), .null),
    (isTimestampForm, .timestamp), ((· == ['=']), .value),
    (fun cs => cs == ['!'] || cs == ['&'] || cs == ['*'], .other)]

/-- The tag of the first form that the text has. -/
def impliedTag (cs : List Char) : Tag :=
  match forms.find? fun (form, _) => form cs with
  | some (_, tag) => tag
  | none => .text

/-- The text without a line feed at its end; it has the form of what is before it, unless that is
nothing. -/
def dropFinalBreak (cs : List Char) : List Char :=
  if cs.getLast? = some '\n' && cs.length > 1 then cs.dropLast else cs

/-- The tag of a scalar that is given none; no form has a half of a surrogate pair in it. -/
def resolve (text : Text) : Tag := impliedTag (dropFinalBreak text.shown)

end StagedLoad.Yaml

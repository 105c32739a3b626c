import StagedLoad.Text.Numeral
import StagedLoad.Value

/-!
# Written dates

A date is written with four digits for the year and one or two for month and day; a time of day may
follow, with a fraction of a second and an offset from universal time.  Only a written date whose
numbers the calendar and the clock have denotes a day or a moment.
-/

namespace StagedLoad.Yaml

/-- A time of day as it is written. -/
structure WrittenTime where
  hour : Nat
  minute : Nat
  second : Nat
  /-- The digits of the fraction. -/
  fraction : List Char := []
  /-- The offset from universal time in seconds. -/
  offset : Option Int := none

/-- A date as it is written. -/
structure WrittenDate where
  year : Nat
  month : Nat
  day : Nat
  /-- Whether month and day have two digits. -/
  wide : Bool
  time : Option WrittenTime := none

/-- The digits at the beginning, as many as there are but at most `most`, and what is behind them;
there must be `least`. -/
def digitRun? (least most : Nat) (cs : List Char) : Option (List Char × List Char) :=
  let ds := (cs.take most).takeWhile Char.isDigit
  if ds.length < least then none else some (ds, cs.drop ds.length)

/-- The number with these digits. -/
def digitsNumber (ds : List Char) : Nat := digitsValue 10 0 (ds.map fun c => c.toNat - 48)

/-- The number at the beginning, with one or two digits, and what is behind it. -/
def shortNumber? (least : Nat) (cs : List Char) : Option (Nat × List Char) :=
  (digitRun? least 2 cs).map fun (ds, cs) => (digitsNumber ds, cs)

/-- What is behind the character, if it comes first. -/
def afterChar? (c : Char) : List Char → Option (List Char)
  | x :: cs => if x = c then some cs else none
  | [] => none

/-- Whether the character is a space or a tab. -/
def isInlineBlank (c : Char) : Bool := c == ' ' || c == '\t'

/-- An offset, which is all that is left: `Z`, or a sign, hours and possibly minutes. -/
def offset? (cs : List Char) : Option Int :=
  match cs.dropWhile isInlineBlank with
  | ['Z'] => some 0
  | sign :: cs =>
    if sign = '+' ∨ sign = '-' then do
      let (hours, cs) ← shortNumber? 1 cs
      let minutes ← match cs with
        | [] => some 0
        | ':' :: cs =>
          match shortNumber? 2 cs with
          | some (m, []) => some m
          | _ => none
        | _ => none
      let seconds : Int := hours * 3600 + minutes * 60
      return if sign = '-' then -seconds else seconds
    else none
  | [] => none

/-- A time of day, which is all that is left. -/
def writtenTime? (cs : List Char) : Option WrittenTime := do
  let (hour, cs) ← shortNumber? 1 cs
  let (minute, cs) ← shortNumber? 2 (← afterChar? ':' cs)
  let (second, cs) ← shortNumber? 2 (← afterChar? ':' cs)
  let (fraction, cs) := match cs with
    | '.' :: cs => (cs.takeWhile Char.isDigit, cs.dropWhile Char.isDigit)
    | cs => ([], cs)
  if cs.isEmpty then return { hour, minute, second, fraction }
  else return { hour, minute, second, fraction, offset := some (← offset? cs) }

/-- What is behind the mark of a time of day: a letter, or blanks. -/
def afterTimeMark? (cs : List Char) : Option (List Char) :=
  match cs with
  | c :: rest =>
    if c = 'T' ∨ c = 't' then some rest
    else if isInlineBlank c then some (rest.dropWhile isInlineBlank)
    else none
  | [] => none

/-- A date with or without a time of day, which is all that there is. -/
def writtenDate? (cs : List Char) : Option WrittenDate := do
  let (year, cs) ← digitRun? 4 4 cs
  let (month, cs) ← digitRun? 1 2 (← afterChar? '-' cs)
  let (day, cs) ← digitRun? 1 2 (← afterChar? '-' cs)
  let date : WrittenDate :=
    { year := digitsNumber year, month := digitsNumber month, day := digitsNumber day
      wide := month.length = 2 && day.length = 2 }
  if cs.isEmpty then return date
  else return { date with time := some (← writtenTime? (← afterTimeMark? cs)) }

/-- The millionths of a second that the digits of a fraction stand for; further digits are dropped.
-/
def microseconds (fraction : List Char) : Nat :=
  digitsNumber ((fraction ++ List.replicate 6 '0').take 6)

/-- The day or the moment, if there is such a one. -/
def WrittenDate.value? (x : WrittenDate) : Option Value :=
  match x.time with
  | none => (Date.make? x.year x.month x.day).map .date
  | some t =>
    (Moment.make? x.year x.month x.day t.hour t.minute t.second (microseconds t.fraction)
      t.offset).map .moment

end StagedLoad.Yaml

import StagedLoad.Number.Shortest

/-!
# Dates and times of day

Dates of the proleptic Gregorian calendar from year 1 to year 9999, and moments: a date with a time
of day and, possibly, an offset from universal time in seconds.  `Date.make?` and `Moment.make?`
refuse what the calendar or the clock does not have, so an impossible date is an error of its
reader.
-/

namespace StagedLoad

/-- Whether the year has a 29th of February. -/
def isLeapYear (y : Nat) : Bool := y % 4 == 0 && (y % 100 != 0 || y % 400 == 0)

/-- The number of days of a month. -/
def daysInMonth (year month : Nat) : Nat :=
  if month = 2 then (if isLeapYear year then 29 else 28)
  else if month = 4 || month = 6 || month = 9 || month = 11 then 30
  else 31

/-- A day of the calendar. -/
structure Date where
  year : Nat
  month : Nat
  day : Nat
deriving DecidableEq, Repr, Inhabited

/-- A date and a time of day, with the offset from universal time if there is one. -/
structure Moment where
  date : Date
  hour : Nat
  minute : Nat
  second : Nat
  micro : Nat
  offset : Option Int
deriving DecidableEq, Repr, Inhabited

namespace Date

/-- The day with these numbers, if the calendar has it. -/
def make? (year month day : Nat) : Option Date :=
  if 1 ≤ year ∧ year ≤ 9999 ∧ 1 ≤ month ∧ month ≤ 12 ∧ 1 ≤ day ∧ day ≤ daysInMonth year month then
    some ⟨year, month, day⟩
  else none

/-- The number of days before the first of March of year zero, counted with months from March. -/
def dayNumber (x : Date) : Int :=
  let y : Int := if x.month ≤ 2 then (x.year : Int) - 1 else x.year
  let m : Int := (x.month + 9) % 12
  365 * y + y / 4 - y / 100 + y / 400 + (153 * m + 2) / 5 + x.day

end Date

/-- Decimal digits padded with zeros to the width. -/
def paddedDecimal (width n : Nat) : String :=
  String.ofList (Shortest.padded width (Shortest.decimal n))

/-- The date as year, month and day with hyphens. -/
def Date.isoText (x : Date) : String :=
  paddedDecimal 4 x.year ++ "-" ++ paddedDecimal 2 x.month ++ "-" ++ paddedDecimal 2 x.day

/-- The date as the call that builds it. -/
def Date.literal (x : Date) : String :=
  "datetime.date(" ++ toString x.year ++ ", " ++ toString x.month ++ ", " ++ toString x.day ++ ")"

namespace Moment

/-- The moment with these numbers, if calendar and clock have it; an offset is shorter than a
day. -/
def make? (year month day hour minute second micro : Nat) (offset : Option Int) : Option Moment :=
  match Date.make? year month day with
  | none => none
  | some date =>
    let offsetFits := match offset with
      | none => true
      | some o => -86400 < o && o < 86400
    if hour < 24 && minute < 60 && second < 60 && micro < 1000000 && offsetFits then
      some ⟨date, hour, minute, second, micro, offset⟩
    else none

/-- The time of day in microseconds since the first day, less the offset. -/
def instant (x : Moment) : Int :=
  let seconds := x.date.dayNumber * 86400 + x.hour * 3600 + x.minute * 60 + x.second
  (seconds - x.offset.getD 0) * 1000000 + x.micro

/-- Equality as points in time: a moment with an offset and one without are never equal. -/
def equals (x y : Moment) : Bool :=
  x.offset.isSome == y.offset.isSome && x.instant == y.instant

/-- The offset with its sign. -/
def offsetText (o : Int) : String :=
  let n := o.natAbs
  let sign := if o < 0 then "-" else "+"
  let seconds := if n % 60 = 0 then "" else ":" ++ paddedDecimal 2 (n % 60)
  sign ++ paddedDecimal 2 (n / 3600) ++ ":" ++ paddedDecimal 2 (n / 60 % 60) ++ seconds

/-- Date, the separator, time of day with six digits of a fraction if there is one, and offset. -/
def isoWith (separator : String) (x : Moment) : String :=
  let fraction := if x.micro = 0 then "" else "." ++ paddedDecimal 6 x.micro
  let offset := match x.offset with
    | none => ""
    | some o => offsetText o
  x.date.isoText ++ separator ++ paddedDecimal 2 x.hour ++ ":" ++ paddedDecimal 2 x.minute ++ ":" ++
    paddedDecimal 2 x.second ++ fraction ++ offset

/-- The moment with a `T` between date and time. -/
def isoText (x : Moment) : String := x.isoWith "T"

/-- The offset as the call that builds it: whole days are counted towards the past. -/
def offsetLiteral (o : Int) : String :=
  if o = 0 then "datetime.timezone.utc"
  else if 0 < o then
    "datetime.timezone(datetime.timedelta(seconds=" ++ toString o ++ "))"
  else
    "datetime.timezone(datetime.timedelta(days=-1, seconds=" ++ toString (o + 86400) ++ "))"

/-- The moment as the call that builds it; a zero second and microsecond are left out. -/
def literal (x : Moment) : String :=
  let time := [x.date.year, x.date.month, x.date.day, x.hour, x.minute] ++
    (if x.micro = 0 then (if x.second = 0 then [] else [x.second]) else [x.second, x.micro])
  let zone := match x.offset with
    | none => ""
    | some o => ", tzinfo=" ++ offsetLiteral o
  "datetime.datetime(" ++ ", ".intercalate (time.map toString) ++ zone ++ ")"

end Moment

end StagedLoad

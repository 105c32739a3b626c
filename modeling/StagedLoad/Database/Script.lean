import StagedLoad.Database.Driver
import StagedLoad.Text.Replace

/-!
# Scripted drivers

A driver that follows a script: row counts and rows that are handed out one after the other, and
rules that refuse calls.  A rule may ask for a part of the statement or for the auto-commit value
that is set, and may be good for a number of calls only; of the rules that fit a call the first one
is taken.
-/

namespace StagedLoad

/-- A rule that refuses calls. -/
structure Rule where
  /-- The name of the calls. -/
  on : Text
  fault : Fault
  /-- A part of the statement. -/
  part : Option Text := none
  /-- The auto-commit value that is set. -/
  value : Option Value := none
  /-- For how many calls the rule is still good. -/
  times : Option Nat := none

/-- Whether the rule refuses the call. -/
def Rule.fits (r : Rule) (c : Call) : Bool :=
  let partFits := match r.part with
    | none => true
    | some p =>
      match c with
      | .execute q => hasPart q.sql p
      | _ => false
  let valueFits := match r.value with
    | none => true
    | some v =>
      match c with
      | .setAutoCommit on => v.same (.bool on)
      | _ => false
  r.on == c.name && partFits && valueFits && r.times != some 0

/-- The fault of the first rule that fits, and the rules with that one used once more. -/
def refuse (c : Call) : List Rule → Option Fault × List Rule
  | [] => (none, [])
  | r :: rs =>
    if r.fits c then (some r.fault, { r with times := r.times.map (· - 1) } :: rs)
    else
      let (f, rs) := refuse c rs
      (f, r :: rs)

/-- What a scripted driver will answer. -/
structure Script where
  rowCounts : List Int := []
  rows : List (Option (List Value)) := []
  rules : List Rule := []

/-- A query has no row count, and neither has a statement when all counts are used. -/
instance : Driver Script where
  attempt c s :=
    let (f, rules) := refuse c s.rules
    (f, { s with rules })
  rowCount sql s :=
    if ("SELECT" : Text).isPrefixOf sql then (-1, s)
    else
      match s.rowCounts with
      | [] => (-1, s)
      | n :: ns => (n, { s with rowCounts := ns })
  nextRow s :=
    match s.rows with
    | [] => (none, s)
    | row :: rows => (row, { s with rows })

end StagedLoad

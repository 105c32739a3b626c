import StagedLoad.Text.Numeral
import StagedLoad.Value.Merge

/-!
# Knots

A list or a map that is inside itself has no end when it is written out.  A knot may still have an
end, if what would not end has been taken out of it or replaced.

* `Value.written` : the value without knots, if it can be written out.
* `Value.takeOut_map` : taking an entry out of a map, the plain case.
-/

namespace StagedLoad

/-- Why a value cannot be written out. -/
inductive WritingFault where
  /-- It has no end, or lies too deep. -/
  | endless
  /-- An integer in it has too many digits. -/
  | longInteger
deriving DecidableEq, Repr

namespace Value

/-- How many levels of lists and maps can be written out. -/
def writingLimit : Nat := 496

/-- A scalar that is written; an integer must not have more digits than are read. -/
def writtenScalar : Value → Except WritingFault Value
  | int n => if n.natAbs < Nat.pow 10 maxDecimalDigits then .ok (int n) else .error .longInteger
  | v => .ok v

/-- The value with all knots opened, if it ends above the level. -/
def writtenAbove : Nat → Value → Except WritingFault Value
  | 0, _ => .error .endless
  | level + 1, v =>
    match v.opened with
    | list xs => (xs.mapM (writtenAbove level)).map list
    | map es =>
      let entry (e : Value × Value) : Except WritingFault (Value × Value) := do
        let k ← writtenScalar e.1
        let v ← writtenAbove level e.2
        return (k, v)
      (es.mapM entry).map map
    | v => writtenScalar v

/-- The value with all knots opened, if it can be written out. -/
def written (v : Value) : Except WritingFault Value := writtenAbove (writingLimit + 1) v

/-- Whether the value has an integer with too many digits, and could be written out otherwise. -/
def hasLongInteger (v : Value) : Bool :=
  match v.written with
  | .error .longInteger => true
  | _ => false

/-- The value under a text key of the outermost map, and the data without this entry.  The entry is
missing wherever the map is inside itself as well. -/
def takeOut (key : Text) : Value → Option Value × Value
  | map es => (Entries.text? key es, map (Entries.erase (text key) es))
  | knot cells n =>
    match cells[n]? with
    | some (map es) =>
      let cells := cells.set n (map (Entries.erase (text key) es))
      ((Entries.text? key es).map (tied cells), knot cells n)
    | _ => (none, knot cells n)
  | v => (none, v)

/-- What is taken out of a map is its entry under the key. -/
theorem takeOut_map (key : Text) (es : Entries) :
    (map es).takeOut key = (Entries.text? key es, map (Entries.erase (text key) es)) := rfl

end Value

end StagedLoad

import StagedLoad.Value.Knot

/-!
# Cells

The lists and maps of a document are made as numbered cells first, whose members refer to other
cells by knots without cells.  A cell from which no way leads back to itself is a plain value; the
others stay knots among each other.
-/

namespace StagedLoad.Yaml

namespace Cell

/-- The cells that are known to be plain, as values. -/
abbrev Settled := Array (Option Value)

/-- A member of a cell as a plain value, if it is known to be plain. -/
def plain? (settled : Settled) : Value → Option Value
  | .knot [] n => (settled[n]?).join
  | v => some v

/-- A cell as a plain value, if all its members are known to be plain. -/
def plainCell? (settled : Settled) : Value → Option Value
  | .list xs => (xs.mapM (plain? settled)).map .list
  | .map es =>
    let entry (e : Value × Value) : Option (Value × Value) :=
      (plain? settled e.2).map fun v => (e.1, v)
    (es.mapM entry).map .map
  | v => some v

/-- Looks at a cell once more, unless it is known to be plain. -/
def visit (cells : Array Value) (settled : Settled) (n : Nat) : Settled :=
  match settled[n]?, cells[n]? with
  | some none, some cell => settled.set! n (plainCell? settled cell)
  | _, _ => settled

/-- Looks at all cells, from the last one to the first and back, until nothing more comes out. -/
def settle (cells : Array Value) : Nat → Settled → Settled
  | 0, settled => settled
  | fuel + 1, settled =>
    let numbers := List.range cells.size
    let next := (numbers.reverse ++ numbers).foldl (visit cells) settled
    if next.countP Option.isSome = settled.countP Option.isSome then next
    else settle cells fuel next

/-- A member of a cell, as a plain value if it is one. -/
def settledMember (settled : Settled) (v : Value) : Value := (plain? settled v).getD v

/-- A cell with its plain members as values. -/
def settledCell (settled : Settled) : Value → Value
  | .list xs => .list (xs.map (settledMember settled))
  | .map es => .map (es.map fun (k, v) => (k, settledMember settled v))
  | v => v

/-- The value of a member of a cell, outside of the cells. -/
def value (cells : Array Value) (v : Value) : Value :=
  let settled := settle cells cells.size (Array.replicate cells.size none)
  match plain? settled v with
  | some v => v
  | none => v.tied (cells.toList.map (settledCell settled))

end Cell

end StagedLoad.Yaml

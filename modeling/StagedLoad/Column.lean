import StagedLoad.Product

/-!
# Columns and merge settings

The columns of a target in order, the keys that staging rows are matched by, and the row counts that
a load reports.
-/

namespace StagedLoad

/-- A column of the target: its logical type with the parameters of the type, or a type text that is
taken as it is. -/
structure Column where
  name : Text
  typeName : Text
  size : Int := 0
  scale : Int := -1
  declared : Option Text := none
deriving DecidableEq, Repr

/-- The columns of a table; their order is the order of every list of columns in SQL. -/
structure Schema where
  columns : List Column
deriving DecidableEq, Repr

namespace Schema

/-- The names of the columns in order. -/
def names (s : Schema) : List Text := s.columns.map Column.name

/-- The number of columns. -/
def count (s : Schema) : Nat := s.columns.length

/-- The name at an index; a negative index counts from the end. -/
def name? (s : Schema) (i : Int) : Option Text :=
  let j := if i < 0 then i + s.count else i
  if j < 0 then none else s.names[j.toNat]?

end Schema

/-- The keys that match staging rows to target rows, and the assignments of the update if they are
not the default ones. -/
structure MergeSpec where
  keys : List Text
  rule : Option (List Text) := none
deriving DecidableEq, Repr

/-- The row counts that the driver reported for the statements of a load. -/
structure CollectResult where
  inserted : Int := 0
  updated : Int := 0
  merged : Int := 0
deriving DecidableEq, Repr

/-- The sum of the counts. -/
def CollectResult.total (r : CollectResult) : Int := r.inserted + r.updated + r.merged

end StagedLoad

import StagedLoad.Column
import StagedLoad.Table

/-!
# Collect statements

The statements that fold staging tables into a target: the plain append, the update of matching
rows, the insert of missing ones, and the MERGE that does both.  Each of them reads the staging
tables as one union of SELECTs with the columns of the schema in order.
-/

namespace StagedLoad

/-- The quoted columns, each behind the same text. -/
def columnList (q : Quoting) (before : Text) (s : Schema) : Text :=
  Text.join ", " (s.names.map fun n => before ++ q.identifier n)

/-- The rows of all staging tables. -/
def unionSql (q : Quoting) (sources : List TableRef) (s : Schema) : Text :=
  Text.join " UNION ALL "
    (sources.map fun t => "SELECT " ++ columnList q "" s ++ " FROM " ++ q.table t)

/-- The condition that all keys of target and staging row are equal. -/
def keyCondition (q : Quoting) (keys : List Text) : Text :=
  Text.join " AND " (keys.map fun k => "T." ++ q.identifier k ++ " = S." ++ q.identifier k)

/-- The assignments of the update: the rule of the settings, or every column from the staging row.
-/
def updateRule (q : Quoting) (s : Schema) (m : MergeSpec) : Text :=
  match m.rule with
  | some rule => Text.join ", " rule
  | none => Text.join ", " (s.names.map fun n => q.identifier n ++ " = S." ++ q.identifier n)

/-- Inserts every staging row. -/
def appendSql (q : Quoting) (sources : List TableRef) (s : Schema) (target : TableRef) : Text :=
  "INSERT INTO " ++ q.table target ++ " (" ++ columnList q "" s ++ ") " ++ unionSql q sources s

/-- Updates the target rows that a staging row matches. -/
def collectUpdateSql (q : Quoting) (sources : List TableRef) (s : Schema) (target : TableRef)
    (m : MergeSpec) : Text :=
  "UPDATE T SET " ++ updateRule q s m ++ " FROM " ++ q.table target ++ " AS T JOIN (" ++
    unionSql q sources s ++ ") AS S ON " ++ keyCondition q m.keys

/-- Inserts the staging rows that match no target row. -/
def collectInsertSql (q : Quoting) (sources : List TableRef) (s : Schema) (target : TableRef)
    (m : MergeSpec) : Text :=
  "INSERT INTO " ++ q.table target ++ " (" ++ columnList q "" s ++ ") SELECT * FROM (" ++
    unionSql q sources s ++ ") AS S WHERE NOT EXISTS (SELECT 1 FROM " ++ q.table target ++
    " AS T WHERE " ++ keyCondition q m.keys ++ ")"

/-- Updates matching target rows and inserts the other staging rows in one statement. -/
def collectMergeSql (q : Quoting) (sources : List TableRef) (s : Schema) (target : TableRef)
    (m : MergeSpec) : Text :=
  "MERGE INTO " ++ q.table target ++ " AS T USING (" ++ unionSql q sources s ++ ") AS S ON (" ++
    keyCondition q m.keys ++ ") WHEN MATCHED THEN UPDATE SET " ++ updateRule q s m ++
    " WHEN NOT MATCHED THEN INSERT (" ++ columnList q "" s ++ ") VALUES (" ++
    columnList q "S." s ++ ");"

end StagedLoad

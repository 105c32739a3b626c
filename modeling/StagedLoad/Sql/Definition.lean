import StagedLoad.Sql.ColumnType
import StagedLoad.Table

/-!
# Statements about whole tables

CREATE, DROP, DELETE and the renaming of a table, and the lookup of a table in the catalogue.
-/

namespace StagedLoad

/-- The definition of one column: a declared type that is not empty goes before the mapped one. -/
def columnDefinition (q : Quoting) (typeOf : Column → Text) (c : Column) : Text :=
  let type := match c.declared with
    | some d => if d.isEmpty then typeOf c else d
    | none => typeOf c
  q.identifier c.name ++ " " ++ type

/-- A text that is there and not empty. -/
def present (t : Option Text) : Option Text := t.filter fun t => !t.isEmpty

/-- The statement that creates a table. -/
def createTableSql (q : Quoting) (typeOf : Column → Text) (t : TableRef) (s : Schema)
    (tableConstraint tableOption : Option Text) : Text :=
  let definitions := s.columns.map (columnDefinition q typeOf) ++ (present tableConstraint).toList
  let sql := "CREATE TABLE " ++ q.table t ++ " (" ++ Text.join ", " definitions ++ ")"
  match present tableOption with
  | some o => sql ++ " " ++ o
  | none => sql

/-- The statement that drops a table. -/
def dropTableSql (q : Quoting) (t : TableRef) : Text := "DROP TABLE " ++ q.table t

/-- Whether a product has a clause that drops a table only if it exists.  None has, so the catalogue
is asked first. -/
def Product.hasIfExists (_ : Product) : Bool := false

/-- The statement that deletes all rows of a table. -/
def deleteAllSql (q : Quoting) (t : TableRef) : Text := "DELETE FROM " ++ q.table t

/-- The statement that renames a table.  Only the name of the table changes, never its schema. -/
def renameTableSql (q : Quoting) (p : Product) (source target : TableRef) : Text :=
  match p with
  | .synapse => "RENAME OBJECT " ++ q.table source ++ " TO " ++ q.identifier target.table
  | .sqlServer =>
    let name := match source.schema with
      | none => source.table
      | some s => s.text ++ "." ++ source.table
    "EXEC sp_rename " ++ q.identifier name ++ ", " ++ q.identifier target.table ++ ", 'OBJECT'"

/-- The query that has a row exactly if the table exists, with its parameters; a table without a
schema is looked for in the default schema. -/
def lookupSql (t : TableRef) : Text × List Text :=
  match t.schema with
  | some s =>
    ("SELECT 1 FROM INFORMATION_SCHEMA.TABLES WHERE TABLE_SCHEMA = ? AND TABLE_NAME = ?",
      [s.text, t.table])
  | none =>
    ("SELECT 1 FROM INFORMATION_SCHEMA.TABLES WHERE TABLE_SCHEMA = SCHEMA_NAME() " ++
      "AND TABLE_NAME = ?",
      [t.table])

end StagedLoad

import StagedLoad.Database.Session
import StagedLoad.Sql.Definition

/-!
# Writers: definitions

A writer executes statements for one product.  On Synapse every definition of a table runs with
auto-commit on, and the mode that was there before comes back on every way out.

* `Writer.inAutoCommit` : the guard around definitions.
* `Writer.createTable`, `Writer.dropTable`, `Writer.dropTableIfExists`, `Writer.replaceTable`.
-/

namespace StagedLoad

/-- What writes to a target. -/
structure Writer where
  quoting : Quoting := {}
  product : Product := .sqlServer
  /-- Whether the connection was borrowed from an owner that is closed in its place. -/
  owned : Bool := false

/-- Whether the table is in the catalogue. -/
def tableExists {σ : Type} [Driver σ] (t : TableRef) : Session σ Bool := do
  let (sql, params) := lookupSql t
  let row ← fetchOne { sql, params := params.map Value.text }
  return row.isSome

/-- Creates a table with types of the caller's choice, and commits. -/
def createTableAs {σ : Type} [Driver σ] (q : Quoting) (typeOf : Column → Text) (t : TableRef)
    (s : Schema) (tableConstraint tableOption : Option Text) : Session σ Unit := do
  discard (run (createTableSql q typeOf t s tableConstraint tableOption))
  commitIfNecessary

namespace Writer

variable {σ : Type} [Driver σ] (w : Writer)

/-- Runs a definition in the mode that the product asks for. -/
def inAutoCommit {α : Type} (body : Session σ α) : Session σ α :=
  match w.product with
  | .sqlServer => body
  | .synapse => do
    let before ← getAutoCommit
    Session.ensuring (do setAutoCommit true; body) (setAutoCommit before)

/-- Creates a table with the types of the product. -/
def createTable (t : TableRef) (s : Schema) (tableConstraint tableOption : Option Text) :
    Session σ Unit := do
  say .debug "Creating table" [("table", .text t.text), ("columns", .int s.count)]
  w.inAutoCommit
    (createTableAs w.quoting w.product.columnType t s tableConstraint tableOption)

/-- Drops a table; nothing is committed. -/
def dropTable (t : TableRef) : Session σ Unit :=
  w.inAutoCommit (discard (run (dropTableSql w.quoting t)))

/-- Drops a table if it is in the catalogue. -/
def dropTableIfExists (t : TableRef) : Session σ Unit := do
  if ← tableExists t then w.dropTable t

/-- Puts one table in the place of another: drops the other, renames, runs the statement for
afterwards, and commits. -/
def replaceTable (source target : TableRef) (postSql : Option Text) : Session σ Unit := do
  say .debug "Replacing table"
    [("from_table", .text source.text), ("to_table", .text target.text)]
  w.inAutoCommit do
    w.dropTableIfExists target
    discard (run (renameTableSql w.quoting w.product source target))
    runPresent postSql
    commitIfNecessary

end Writer

end StagedLoad

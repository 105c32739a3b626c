import StagedLoad.Column
import StagedLoad.Product
import StagedLoad.Table
import StagedLoad.Value

/-!
# Settings

The settings of a load: where to connect, which table to load, how to merge, and what to run around
it. `OutputSettings.dump` writes settings as plain data, field by field.
-/

namespace StagedLoad

/-- How the target database is reached. -/
structure ConnectionSettings where
  server : Text
  database : Text
  driver : Text := "ODBC Driver 18 for SQL Server"
  port : Int := 1433
  timeout : Int := 30
  authMode : AuthMode := .managedIdentity
  username : Option Text := none
  password : Option Text := none
  product : Product := .sqlServer
  identifierQuote : Text := "\x22"
deriving DecidableEq, Repr

/-- How staging rows are merged into target rows. -/
structure MergeSettings where
  keys : List Text
  rule : Option (List Text) := none
  strategy : MergeStrategy := .merge
deriving DecidableEq, Repr

/-- The settings of a load into one target table. -/
structure OutputSettings where
  connection : ConnectionSettings
  table : Text
  merge : Option MergeSettings := none
  tableConstraint : Option Text := none
  tableOption : Option Text := none
  beforeLoad : Option Text := none
  afterLoad : Option Text := none
deriving DecidableEq, Repr

/-- Whether an optional text is there and not empty. -/
def isPresent (t : Option Text) : Bool := t.any fun t => !t.isEmpty

/-- An optional text as data. -/
def Value.ofText? (t : Option Text) : Value := (t.map Value.text).getD .null

/-- Texts as data. -/
def Value.ofTexts (ts : List Text) : Value := .list (ts.map Value.text)

/-- Optional texts as data. -/
def Value.ofTexts? (ts : Option (List Text)) : Value := (ts.map Value.ofTexts).getD .null

/-- The keys and the rule of the merge. -/
def MergeSettings.spec (m : MergeSettings) : MergeSpec := ⟨m.keys, m.rule⟩

/-- The target table that the settings name. -/
def OutputSettings.target (s : OutputSettings) : TableRef := TableRef.parse s.table

/-- The settings as data. -/
def ConnectionSettings.dump (c : ConnectionSettings) : Value := .map [
  (.text "server", .text c.server),
  (.text "database", .text c.database),
  (.text "driver", .text c.driver),
  (.text "port", .int c.port),
  (.text "timeout", .int c.timeout),
  (.text "auth_mode", .text (Word.word c.authMode)),
  (.text "username", .ofText? c.username),
  (.text "password", .ofText? c.password),
  (.text "product", .text (Word.word c.product)),
  (.text "identifier_quote", .text c.identifierQuote)]

/-- The settings as data. -/
def MergeSettings.dump (m : MergeSettings) : Value := .map [
  (.text "keys", .ofTexts m.keys),
  (.text "rule", .ofTexts? m.rule),
  (.text "strategy", .text (Word.word m.strategy))]

/-- The settings as data. -/
def OutputSettings.dump (s : OutputSettings) : Value := .map [
  (.text "connection", s.connection.dump),
  (.text "table", .text s.table),
  (.text "merge", (s.merge.map MergeSettings.dump).getD .null),
  (.text "table_constraint", .ofText? s.tableConstraint),
  (.text "table_option", .ofText? s.tableOption),
  (.text "before_load", .ofText? s.beforeLoad),
  (.text "after_load", .ofText? s.afterLoad)]

end StagedLoad

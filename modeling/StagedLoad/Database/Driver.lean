import StagedLoad.Failure
import StagedLoad.Value

/-!
# The driver

What is asked of a database driver.  A driver may refuse any call with any fault, and a call that it
refuses has no effect; of a statement it also tells the row count, and the rows one by one.
-/

namespace StagedLoad

/-- A statement with its parameters. -/
structure Query where
  sql : Text
  params : List Value := []

/-- The settings of an engine. -/
structure EngineOptions where
  /-- Connections are tested before they are handed out. -/
  prePing : Bool := true
  /-- The seconds after which a connection is made anew. -/
  recycle : Nat := 3600
  /-- Statements are not printed. -/
  echo : Bool := false
deriving DecidableEq, Repr

/-- A call to the driver. -/
inductive Call where
  | createEngine (url : Text) (options : EngineOptions)
  | rawConnection
  | dispose
  | ownerClose
  | setAutoCommit (on : Bool)
  | cursor
  | commit
  | close
  | execute (query : Query)
  | fetchOne
  | closeCursor

/-- The name of the call. -/
def Call.name : Call → String
  | createEngine _ _ => "create_engine"
  | rawConnection => "raw_connection"
  | dispose => "dispose"
  | ownerClose => "owner_close"
  | setAutoCommit _ => "set_autocommit"
  | cursor => "cursor"
  | commit => "commit"
  | close => "close"
  | execute _ => "execute"
  | fetchOne => "fetchone"
  | closeCursor => "close_cursor"

/-- A call that was made: the auto-commit value that the connection had then, and the fault if the
call was refused. -/
structure Event where
  call : Call
  mode : Value
  fault : Option Fault

/-- A database driver with states `σ`. -/
class Driver (σ : Type) where
  /-- Whether a call is refused. -/
  attempt : Call → σ → Option Fault × σ
  /-- The row count of a statement that was executed. -/
  rowCount : Text → σ → Int × σ
  /-- The next row of a query that was executed, if there is one. -/
  nextRow : σ → Option (List Value) × σ

end StagedLoad

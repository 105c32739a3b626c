import StagedLoad.Product
import StagedLoad.Settings.Checked

/-!
# Failures

What can go wrong while a database is worked with: a fault of the driver, which reaches the caller
as it is, a connection that cannot be made, settings that do not suffice to make one, a word that is
none of a closed set, and settings data with faults.
-/

namespace StagedLoad

/-- The kinds of faults of a driver: the usual ones, and those that a driver names itself. -/
inductive FaultKind where
  | database
  | operational
  | runtime
  | value
  | other (name : String)
deriving DecidableEq, Repr, Inhabited

instance : Word FaultKind where
  all := [.database, .operational, .runtime, .value]
  word
    | .database => "DatabaseError"
    | .operational => "OperationalError"
    | .runtime => "RuntimeError"
    | .value => "ValueError"
    | .other name => name
  kind := "FaultKind"

/-- A fault of the driver. -/
structure Fault where
  kind : FaultKind
  message : Text
deriving DecidableEq, Repr, Inhabited

/-- A connection that could not be made, with what may help. -/
structure Unreachable where
  connection : Text
  reason : Text
  suggestions : List Text := []
deriving DecidableEq, Repr

/-- A line for each suggestion, numbered from one. -/
def numberedLines (first : Nat) : List Text → Text
  | [] => []
  | s :: ss => "\n    " ++ toString first ++ ". " ++ s ++ numberedLines (first + 1) ss

/-- What is said of a connection that could not be made. -/
def Unreachable.message (u : Unreachable) : Text :=
  let help : Text :=
    if u.suggestions.isEmpty then [] else "\n\n  Suggestions:" ++ numberedLines 1 u.suggestions
  "Connection failed: " ++ u.connection ++ "\n  Reason: " ++ u.reason ++ help

/-- What connection settings can lack. -/
inductive Lack where
  | server
  | database
  | login
deriving DecidableEq, Repr

/-- What is said of settings that do not suffice. -/
def Lack.message : Lack → String
  | server => "SQL Server connection requires 'server'"
  | database => "SQL Server connection requires 'database'"
  | login => "SQL Server with auth_mode='sql' requires username and password"

/-- The reason why an operation failed. -/
inductive Failure where
  /-- The driver failed. -/
  | fault (f : Fault)
  /-- The connection could not be made. -/
  | unreachable (u : Unreachable)
  /-- The settings do not suffice to make a connection. -/
  | lacking (l : Lack)
  /-- The connection string has no encoded form. -/
  | unencodable
  /-- A word is none of a closed set. -/
  | unknownWord (w : UnknownWord)
  /-- Settings data have faults. -/
  | invalid (issues : List Issue)
deriving DecidableEq, Repr

end StagedLoad

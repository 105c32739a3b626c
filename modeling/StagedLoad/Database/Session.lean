import StagedLoad.Database.Driver
import StagedLoad.Log.Journal

/-!
# Sessions

A session is a computation on a link: the driver, the auto-commit value of the connection, the trace
of calls and the log.  Every call is put on the trace whether it is refused or not.

* `Session.ensuring` : a clean-up that always runs, whose own failure replaces the one before.
* `execute`, `fetchOne` : each opens a cursor and closes it on every way out.
-/

namespace StagedLoad

/-- A connection to a driver and what has happened on it. -/
structure Link (σ : Type) where
  driver : σ
  /-- The auto-commit value of the connection, as it was given. -/
  autoCommit : Value := .bool false
  /-- The engine in use. -/
  engine : Option Nat := none
  /-- The number of engines made so far. -/
  engines : Nat := 0
  trace : List Event := []
  journal : Journal := {}

/-- A computation on a link that may fail. -/
abbrev Session (σ α : Type) := ExceptT Failure (StateM (Link σ)) α

namespace Session

variable {σ α β : Type}

/-- Runs the clean-up after the body, however that ended.  A failure of the clean-up is the failure
of the whole. -/
def ensuring (body : Session σ α) (cleanup : Session σ Unit) : Session σ α := fun s =>
  match body s with
  | (r, s) =>
    match cleanup s with
    | (.ok _, s) => (r, s)
    | (.error e, s) => (.error e, s)

/-- Runs the body and, if the driver failed in it, does something about the fault and fails all the
same. -/
def observing (body : Session σ α) (react : Fault → Link σ → Link σ) : Session σ α := fun s =>
  match body s with
  | (.error (.fault f), s) => (.error (.fault f), react f s)
  | r => r

/-- Runs the body with the faults of the driver turned into other failures. -/
def mapFault (body : Session σ α) (failure : Fault → Failure) : Session σ α := fun s =>
  match body s with
  | (.error (.fault f), s) => (.error (failure f), s)
  | r => r

/-- Fails. -/
def fail (e : Failure) : Session σ α := fun s => (.error e, s)

/-- Changes the link. -/
def update (f : Link σ → Link σ) : Session σ Unit := fun s => (.ok (), f s)

/-- What the link tells. -/
def ask (f : Link σ → α) : Session σ α := fun s => (.ok (f s), s)

end Session

/-- The link with a message logged. -/
def Link.log {σ : Type} (s : Link σ) (severity : Severity) (message : Text) (context : Context) :
    Link σ :=
  { s with journal := s.journal.log severity message context }

section

variable {σ : Type} [Driver σ]

/-- Makes a call. -/
def perform (c : Call) : Session σ Unit := fun s =>
  match Driver.attempt c s.driver with
  | (fault, driver) =>
    let s := { s with driver, trace := s.trace ++ [⟨c, s.autoCommit, fault⟩] }
    match fault with
    | some f => (.error (.fault f), s)
    | none => (.ok (), s)

/-- Logs a message. -/
def say (severity : Severity) (message : Text) (context : Context) : Session σ Unit :=
  Session.update fun s => s.log severity message context

/-- Whether statements are committed one by one. -/
def getAutoCommit : Session σ Bool := Session.ask fun s => s.autoCommit.truth

/-- Turns auto-commit on or off. -/
def setAutoCommit (on : Bool) : Session σ Unit := do
  say .debug "Setting auto-commit" [("auto_commit", .bool on)]
  perform (.setAutoCommit on)
  Session.update fun s => { s with autoCommit := .bool on }

/-- Runs the body between the opening and the closing of a cursor. -/
def withCursor {α : Type} (body : Session σ α) : Session σ α := do
  perform .cursor
  Session.ensuring body (perform .closeCursor)

/-- The row count of a statement. -/
def takeRowCount (sql : Text) : Session σ Int := fun s =>
  match Driver.rowCount sql s.driver with
  | (n, driver) => (.ok n, { s with driver })

/-- The next row. -/
def takeRow : Session σ (Option (List Value)) := fun s =>
  match Driver.nextRow s.driver with
  | (row, driver) => (.ok row, { s with driver })

/-- Has a statement carried out on the open cursor; the result is its row count.  A statement whose
rows are asked for has one as well. -/
def carryOut (q : Query) : Session σ Int := do
  perform (.execute q)
  takeRowCount q.sql

/-- Executes a statement; the result is its row count. -/
def execute (q : Query) : Session σ Int := do
  say .debug "Executing SQL" [("sql", .text q.sql)]
  withCursor (carryOut q)

/-- Executes a query; the result is its first row, if there is one. -/
def fetchOne (q : Query) : Session σ (Option (List Value)) := do
  say .debug "Querying" [("sql", .text q.sql)]
  withCursor do
    discard (carryOut q)
    perform .fetchOne
    takeRow

/-- Executes a statement without parameters. -/
def run (sql : Text) : Session σ Int := execute { sql }

/-- Executes a statement, if there is one that is not empty. -/
def runPresent (sql : Option Text) : Session σ Unit := do
  match sql with
  | none => pure ()
  | some sql => if sql.isEmpty then pure () else discard (run sql)

/-- Commits. -/
def commit : Session σ Unit := perform .commit

/-- Commits unless statements are committed one by one. -/
def commitIfNecessary : Session σ Unit := do
  if !(← getAutoCommit) then commit

/-- Closes the connection, or the owner that it was borrowed from. -/
def closeSession (owned : Bool) : Session σ Unit := perform (if owned then .ownerClose else .close)

/-- Runs the body and closes the connection however that ended. -/
def withSession {α : Type} (owned : Bool) (body : Session σ α) : Session σ α :=
  Session.ensuring body (closeSession owned)

end

end StagedLoad

import StagedLoad.Database.Session
import StagedLoad.Settings
import StagedLoad.Text.Numeral
import StagedLoad.Text.Replace
import StagedLoad.Writer

/-!
# Endpoints

An endpoint knows how a database is reached.  It makes one engine, keeps it until it is closed, and
opens sessions on it.  Port and timeout are written as they were given.

The address of the engine holds the connection string in the form encoding of query strings:
letters, digits and the four marks `_`, `.`, `-` and `~` stand for themselves, a space is written
`+`, and every other character is written as the bytes of its UTF-8 form, each as a percent sign and
two capital hexadecimal digits.  A half of a surrogate pair has no bytes, and a text with one has no
encoded form.

* `percentEncode?_ofChars` : a text of characters has its encoded form.
* `Endpoint.connectionString`, `Endpoint.url?` : what an engine is made from.
* `Endpoint.suggestions` : what may help after a failure.
-/

namespace StagedLoad

/-! ## Percent-encoded text -/

/-- The characters that are written as themselves. -/
def isUnreserved (c : Char) : Bool :=
  c.isAlphanum || c == '_' || c == '.' || c == '-' || c == '~'

/-- A byte as a percent sign and two digits. -/
def percentByte (b : UInt8) : List Char :=
  ['%', upperHexDigit (b.toNat / 16), upperHexDigit (b.toNat % 16)]

/-- The encoded form of one character. -/
def percentChar (c : Char) : List Char :=
  if isUnreserved c then [c]
  else if c = ' ' then ['+']
  else (String.utf8EncodeChar c).flatMap percentByte

/-- The encoded form of a text, if it has one. -/
def percentEncode? (t : Text) : Option (List Char) :=
  t.chars?.map fun cs => cs.flatMap percentChar

/-- A text of characters has its encoded form. -/
theorem percentEncode?_ofChars (cs : List Char) :
    percentEncode? (.ofChars cs) = some (cs.flatMap percentChar) := by
  simp [percentEncode?, Text.chars?_ofChars]

/-! ## Reaching a database -/

/-- How a database is reached. -/
structure Endpoint where
  server : Text
  database : Text
  driver : Text := "ODBC Driver 18 for SQL Server"
  username : Option Text := none
  password : Option Text := none
  authMode : AuthMode := .managedIdentity
  port : Value := .int 1433
  timeout : Value := .int 30
  product : Product := .sqlServer
  identifierQuote : Text := "\x22"

namespace Endpoint

/-- The endpoint of connection settings. -/
def ofSettings (c : ConnectionSettings) : Endpoint :=
  { server := c.server, database := c.database, driver := c.driver, username := c.username,
    password := c.password, authMode := c.authMode, port := .int c.port, timeout := .int c.timeout,
    product := c.product, identifierQuote := c.identifierQuote }

/-- The name of the endpoint in messages. -/
def name (e : Endpoint) : Text := "SqlServer(" ++ e.server ++ "/" ++ e.database ++ ")"

/-- What the endpoint lacks to make a connection. -/
def lack? (e : Endpoint) : Option Lack :=
  if e.server.isEmpty then some .server
  else if e.database.isEmpty then some .database
  else if e.authMode = .sql && !(isPresent e.username && isPresent e.password) then some .login
  else none

/-- The attributes that a connection is made with, each ended by a semicolon. -/
def connectionString (e : Endpoint) : Text :=
  let common := "Driver=\x7b" ++ e.driver ++ "\x7d;Server=tcp:" ++ e.server ++ "," ++
    e.port.display ++ ";Database=" ++ e.database ++ ";Encrypt=yes;TrustServerCertificate=yes;" ++
    "Connection Timeout=" ++ e.timeout.display ++ ";"
  let login := match e.authMode with
    | .sql => "UID=" ++ (Value.ofText? e.username).display ++ ";PWD=" ++
        (Value.ofText? e.password).display ++ ";"
    | .managedIdentity => "Authentication=ActiveDirectoryMsi;"
  common ++ login

/-- The address of the engine: the connection string is its only parameter.  If that string has no
encoded form, there is no address. -/
def url? (e : Endpoint) : Option Text :=
  (percentEncode? e.connectionString).map fun cs =>
    "mssql+pyodbc:///?odbc_connect=" ++ Text.ofChars cs

/-- What may help after a failure with the message.  Letters are compared without case; no letter
beyond ASCII turns into one of the words that are looked for. -/
def suggestions (e : Endpoint) (message : Text) : List Text :=
  let lower := message.shown.map Char.toLower
  let tells (part : String) : Bool := occursIn part.toList lower
  let login : List Text := ["Check username and password",
    "Verify auth_mode is correct (current: " ++ Word.word e.authMode ++ ")"]
  let network : List Text := ["Check SQL Server firewall rules", "Ensure client IP is allowed"]
  let driver : List Text := ["Verify ODBC driver '" ++ e.driver ++ "' is installed",
    "On Linux: sudo apt-get install msodbcsql18"]
  (if tells "login failed" then login else []) ++
    (if tells "firewall" || tells "tcp provider" then network else []) ++
    (if tells "driver" then driver else [])

/-- The failure to reach the endpoint because of a fault. -/
def unreachable (e : Endpoint) (what : Text) (f : Fault) : Failure :=
  .unreachable ⟨e.name, what ++ f.message, e.suggestions f.message⟩

section

variable {σ : Type} [Driver σ] (e : Endpoint)

/-- Makes the password, if there is one, a secret of the log. -/
def guardPassword : Session σ Unit :=
  Session.update fun s =>
    match e.password with
    | some p => { s with journal := s.journal.register p }
    | none => s

/-- Fails if the endpoint lacks something. -/
def validate : Session σ Unit :=
  match e.lack? with
  | some l => Session.fail (.lacking l)
  | none => pure ()

/-- The address of the engine, if there is one. -/
def address : Session σ Text :=
  match e.url? with
  | some url => pure url
  | none => Session.fail .unencodable

/-- The engine in use, which is made first if there is none. -/
def getEngine : Session σ Nat := do
  match ← Session.ask fun s => s.engine with
  | some n => return n
  | none =>
    e.validate
    let url ← e.address
    Session.mapFault (perform (.createEngine url {})) (e.unreachable "Failed to create engine: ")
    let n ← Session.ask fun s => s.engines
    Session.update fun s => { s with engine := some n, engines := n + 1 }
    say .debug "Created SQLAlchemy engine"
      [("server", .text e.server), ("database", .text e.database)]
    return n

/-- Takes a connection from the engine. -/
def openSession : Session σ Unit := do
  discard e.getEngine
  Session.mapFault (perform .rawConnection) (e.unreachable "Failed to open connection: ")

/-- Gives the engine up. -/
def close : Session σ Unit := do
  match ← Session.ask fun s => s.engine with
  | none => pure ()
  | some _ =>
    perform .dispose
    Session.update fun s => { s with engine := none }

/-- A writer on a new session of the endpoint. -/
def openWriter : Session σ Writer := do
  e.guardPassword
  e.validate
  e.openSession
  return { quoting := ⟨e.identifierQuote⟩, product := e.product, owned := true }

end

end Endpoint

end StagedLoad

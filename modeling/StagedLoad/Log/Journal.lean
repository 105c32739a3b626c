import StagedLoad.Json.Encode
import StagedLoad.Log.Level
import StagedLoad.Text.Replace

/-!
# The log

A logger writes plain messages or JSON lines.  Plain messages go through a channel that all loggers
share and that filters once more; JSON lines are printed as they are.  Reconfiguring a logger
replaces the handler that a logger put on the channel before, keeps every foreign one, and keeps the
secrets.

A program makes loggers and configures each of them as often as it likes.  Mode, threshold and
secrets are a logger's own; what the channel is like is up to the last call that configured any of
them.

Secrets are texts that must not show up in the log.  Every occurrence of a secret is replaced by
`[REDACTED]`, one secret after the other.  A text that is blank is never a secret.

* `Handler.uninstall_eq_filter` : the walk over the handlers takes all installed ones away, and no
  others.
-/

namespace StagedLoad

/-! ## Secrets -/

/-- What stands in the place of a secret. -/
def redactionMark : Text := "[REDACTED]"

/-- The text with the secrets replaced, the first secret first. -/
def redactAll (secrets : List Text) (text : Text) : Text :=
  secrets.foldl (fun t s => replacePart t s redactionMark) text

/-- The secrets with one more, unless it is blank or known. -/
def registerSecret (secret : Text) (secrets : List Text) : List Text :=
  if isBlankText secret || secrets.contains secret then secrets else secrets ++ [secret]

/-! ## The shared channel -/

/-- What takes messages from the channel. -/
inductive Handler where
  /-- A handler that was there before, or that someone else put there. -/
  | foreign (id : Nat)
  /-- The handler of plain messages. -/
  | console
  /-- The handler of JSON lines. -/
  | lines
deriving DecidableEq, Repr

/-- Whether a logger put the handler on the channel. -/
def Handler.isInstalled : Handler → Bool
  | foreign _ => false
  | _ => true

namespace Handler

/-- The handler that a logger installs. -/
def ofMode (structured : Bool) : Handler := if structured then lines else console

/-- The handlers without the installed ones.  The walk is over a copy, for the handlers that it
comes to are taken out of the list. -/
def uninstall (handlers : List Handler) : List Handler :=
  handlers.foldl (fun left h => if h.isInstalled then left.erase h else left) handlers

/-- Behind the walk the handlers are foreign, before it they are as they were. -/
theorem foldl_erase_installed (kept rest : List Handler) (h : ∀ x ∈ kept, x.isInstalled = false) :
    rest.foldl (fun left x => if x.isInstalled then left.erase x else left) (kept ++ rest) =
      kept ++ rest.filter (fun x => !x.isInstalled) := by
  induction rest generalizing kept with
  | nil => rfl
  | cons x rest ih =>
    cases hx : x.isInstalled with
    | true =>
      have hnew : x ∉ kept := fun hmem => by simp [h x hmem] at hx
      simpa [hx, List.erase_append_right, hnew] using ih kept h
    | false =>
      have hkept : ∀ y ∈ kept ++ [x], y.isInstalled = false := by
        simpa [or_imp, forall_and, hx] using h
      simpa [hx] using ih (kept ++ [x]) hkept

/-- **The walk over the handlers takes all installed ones away**, and no others. -/
theorem uninstall_eq_filter (handlers : List Handler) :
    uninstall handlers = handlers.filter (fun x => !x.isInstalled) :=
  foldl_erase_installed [] handlers (by simp)

end Handler

/-- The libraries whose messages are noise below a warning. -/
def libraryNames : List Text := ["sqlalchemy.engine", "sqlalchemy.pool", "pyodbc"]

/-- What all loggers share: the handlers, whether messages also go to the root, the threshold, and
the threshold of every library, by its name. -/
structure Channel where
  handlers : List Handler := []
  propagate : Bool := true
  threshold : Nat := 0
  libraryThreshold : Text → Nat := fun _ => 0

namespace Channel

/-- Puts a handler in the place of the installed ones and keeps messages from the root. -/
def install (h : Handler) (c : Channel) : Channel :=
  { c with handlers := Handler.uninstall c.handlers ++ [h], propagate := false }

/-- Gives each of the noisy libraries the threshold. -/
def quieten (threshold : Nat) (c : Channel) : Channel :=
  { c with
    libraryThreshold := fun name =>
      if libraryNames.contains name then threshold else c.libraryThreshold name }

/-- Sets the channel up for a mode and a threshold.  The libraries are not heard below a warning. -/
def setUp (structured : Bool) (threshold : Nat) (c : Channel) : Channel :=
  ({ c with threshold }.install (.ofMode structured)).quieten (max threshold 30)

/-- The greatest threshold of the noisy libraries. -/
def libraries (c : Channel) : Nat := (libraryNames.map c.libraryThreshold).foldr max 0

/-- The threshold in force: a channel without one has that of the root. -/
def effective (c : Channel) : Nat := if c.threshold = 0 then 30 else c.threshold

end Channel

/-! ## Loggers -/

/-- One logger. -/
structure Logger where
  structured : Bool := false
  /-- The threshold, or what was given for it and cannot be used. -/
  threshold : Except LevelFault Nat := .ok 20
  secrets : List Text := []

/-- What was logged. -/
inductive Record where
  /-- A plain message, with its severity. -/
  | plain (severity : Severity) (text : Text)
  /-- A JSON line. -/
  | line (text : String)
deriving DecidableEq, Repr

/-- The data that go with a message. -/
abbrev Context := List (Text × Value)

/-- Whether the data claim a name that belongs to the message or to the logger itself. -/
def Context.clashes (context : Context) : Bool :=
  context.any fun e => e.1 == "level" || e.1 == "message" || e.1 == "self"

namespace Logger

/-- Whether a message of the severity is below the threshold; what cannot be used lets none pass. -/
def drops (l : Logger) (severity : Severity) : Bool :=
  match l.threshold with
  | .ok threshold => severity.rank < threshold
  | .error _ => true

/-- The text without the secrets. -/
def redact (l : Logger) (text : Text) : Text := redactAll l.secrets text

/-- The context with its texts redacted; what is inside lists and maps is left as it is. -/
def redactContext (l : Logger) (context : Context) : Context :=
  context.map fun
    | (k, .text s) => (k, .text (l.redact s))
    | entry => entry

/-- The fields of a JSON line; a context key that is already there replaces the value in place. -/
def fields (stamp : Text) (severity : Severity) (message : Text) (context : Context) :
    Entries :=
  context.foldl (fun es e => Entries.put (.text e.1) e.2 es)
    [(.text "timestamp", .text stamp), (.text "level", .text severity.name),
      (.text "message", .text message)]

/-- The context behind a plain message. -/
def suffix (context : Context) : Text :=
  if context.isEmpty then []
  else " (" ++ Text.join ", " (context.map fun (k, v) => k ++ "=" ++ v.display) ++ ")"

/-- The record of a message, if it passes the thresholds. -/
def record? (l : Logger) (c : Channel) (stamp : Text) (severity : Severity) (message : Text)
    (context : Context) : Option Record :=
  if l.drops severity then none
  else
    let message := l.redact message
    let context := l.redactContext context
    if l.structured then
      some (.line (String.ofList (Json.encode (.map (fields stamp severity message context)))))
    else if severity.rank < c.effective then none
    else some (.plain severity (severity.lead ++ message ++ suffix context))

end Logger

/-- A logger with its channel, the records that it wrote, and the text that it writes for the time.
-/
structure Journal where
  logger : Logger := {}
  channel : Channel := {}
  records : List Record := []
  stamp : Text := []

namespace Journal

/-- Sets mode and threshold.  A word that cannot be used for the threshold leaves the channel as it
was, but not the logger. -/
def configure (j : Journal) (structured : Bool) (level : Text) :
    Except LevelFault Unit × Journal :=
  match thresholdOf level with
  | .ok threshold =>
    (.ok (), { j with
      logger := { j.logger with structured, threshold := .ok threshold }
      channel := j.channel.setUp structured threshold })
  | .error f =>
    (.error f, { j with logger := { j.logger with structured, threshold := .error f } })

/-- A new logger on the channel. -/
def start (stamp : Text) (structured : Bool) (level : Text) : Except LevelFault Journal :=
  match configure { stamp } structured level with
  | (.ok _, j) => .ok j
  | (.error f, _) => .error f

/-- Makes a text a secret. -/
def register (j : Journal) (secret : Text) : Journal :=
  { j with logger := { j.logger with secrets := registerSecret secret j.logger.secrets } }

/-- Logs a message. -/
def log (j : Journal) (severity : Severity) (message : Text) (context : Context) : Journal :=
  match j.logger.record? j.channel j.stamp severity message context with
  | some r => { j with records := j.records ++ [r] }
  | none => j

/-- Logs a message with data of any names.  Names of the message or the logger itself are refused,
and so is every message if the threshold cannot be used. -/
def logFree? (j : Journal) (severity : Severity) (message : Text) (context : Context) :
    Option Journal :=
  match j.logger.threshold with
  | .error _ => none
  | .ok _ => if context.clashes then none else some (j.log severity message context)

end Journal

/-! ## Several loggers -/

/-- The loggers of a program, in the order in which they were made, on their channel. -/
structure LogHub where
  loggers : List Logger := []
  channel : Channel := {}

/-- A call that makes a logger or changes one.  A logger goes by its place among all that were
made. -/
inductive HubCall where
  /-- Makes a logger. -/
  | make (structured : Bool := false) (level : Text := "INFO")
  /-- Configures a logger anew. -/
  | configure (logger : Nat) (structured : Bool := false) (level : Text := "INFO")
  /-- Gives a logger a secret; only a text can be one. -/
  | register (logger : Nat) (secret : Value)

namespace LogHub

/-- One of the loggers with the channel of all. -/
def journal (hub : LogHub) (l : Logger) : Journal := { logger := l, channel := hub.channel }

/-- What comes of a call, and what it leaves behind.  A logger whose threshold cannot be used is not
made.  A call for a logger that is not there does nothing. -/
def step (hub : LogHub) : HubCall → Except LevelFault Unit × LogHub
  | .make structured level =>
    match (hub.journal {}).configure structured level with
    | (.ok _, j) => (.ok (), ⟨hub.loggers ++ [j.logger], j.channel⟩)
    | (.error f, _) => (.error f, hub)
  | .configure i structured level =>
    match hub.loggers[i]? with
    | some l =>
      let (result, j) := (hub.journal l).configure structured level
      (result, ⟨hub.loggers.set i j.logger, j.channel⟩)
    | none => (.ok (), hub)
  | .register i (.text secret) =>
    match hub.loggers[i]? with
    | some l =>
      (.ok (), { hub with loggers := hub.loggers.set i ((hub.journal l).register secret).logger })
    | none => (.ok (), hub)
  | .register _ _ => (.ok (), hub)

/-- The calls one after the other. -/
def run (hub : LogHub) (calls : List HubCall) : LogHub :=
  calls.foldl (fun hub call => (hub.step call).2) hub

end LogHub

end StagedLoad

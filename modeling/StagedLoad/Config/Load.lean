import StagedLoad.Config.Failure
import StagedLoad.Config.FileTree
import StagedLoad.Config.Variable
import StagedLoad.Log.Journal
import StagedLoad.Settings.Check
import StagedLoad.Text.Replace
import StagedLoad.Value.Knot
import StagedLoad.Yaml.Build

/-!
# Layered configurations

A configuration file is a document with variables.  It may import other files, whose entries it
overrides, and it may hold blocks of entries for environments, of which the chosen one overrides all
else.  The data are looked at only as deep as this needs, since a document may be inside itself.

* `layered_of_plain` : how data that are not inside themselves are put over each other.
-/

namespace StagedLoad

/-- What a configuration is read from. -/
structure Surroundings where
  files : FileTree
  vars : Variables := []
  /-- The chosen environment. -/
  environment : Option Text := none

/-- How far the reading has come. -/
structure Progress where
  journal : Journal
  /-- The number of documents so far. -/
  documents : Nat := 0

/-- Reading that logs, and may fail. -/
abbrev Reading := ExceptT ReadFailure (StateM Progress)

namespace Reading

/-- Logs a message, unless a number in its data has too many digits to be written. -/
def say (severity : Severity) (message : Text) (context : Context) : Reading Unit := do
  if !(← get).journal.logger.drops severity && context.any fun e => e.2.hasLongInteger then
    throw .longInteger
  modify fun p => { p with journal := p.journal.log severity message context }

/-- Takes a number for a document. -/
def nextDocument : Reading Nat :=
  modifyGet fun p => (p.documents, { p with documents := p.documents + 1 })

/-- Runs a reading that logs to the journal. -/
def runWith {α : Type} (r : Reading α) (j : Journal) : Except ReadFailure α × Journal :=
  let (result, progress) := r.run { journal := j }
  (result, progress.journal)

/-- The text with its variables filled in. -/
def fill (vars : Variables) (path : Value) (text : Text) : Reading Text := do
  match substitute vars text with
  | .ok t => return t
  | .error name =>
    say .error "Missing required environment variable"
      [("variable", .text name), ("file", path)]
    throw (.variableMissing name)

/-- The text of a file. -/
def readText (t : FileTree) (path : Text) : Reading Text := do
  match t.opened? path with
  | some (.file bytes) =>
    match utf8Text? bytes with
    | some text => return withLineFeeds text
    | none => throw .notUtf8
  | some .directory => throw .directory
  | none => throw (.fileMissing path)

end Reading

/-- The data of a document, which must be a map.  A document that counts as false is an empty one.
-/
def topData (document : Option Value) : Except ReadFailure Value :=
  match document.filter Value.truth with
  | none => .ok (.map [])
  | some v =>
    match v.opened with
    | .map _ => .ok v
    | .list _ => .error .unusable
    | _ => .error .notMap

/-- The members of what is to be imported: a text is one file, a map is a list of its keys. -/
def importList (imports : Option Value) : Except ReadFailure (List Value) :=
  match imports.map Value.opened with
  | none => .ok []
  | some (.text t) => .ok [.text t]
  | some (.list xs) => .ok xs
  | some (.map es) => .ok (Entries.keys es)
  | some (.bytes []) => .ok []
  | some _ => .error .unusable

/-- The path of a file to be imported from a directory.  A path from the directory must be given in
the same way as the directory. -/
def importPath (t : FileTree) (directory : FilePath) (member : Value) :
    Except ReadFailure FilePath := do
  let path ← match member with
    | .text path => .ok { text := path }
    | .bytes bs => .ok (FilePath.ofBytes bs)
    | _ => .error .unusable
  if !isAbsolute path.text && path.inBytes != directory.inBytes then .error .unusable
  else
    let path := { path with text := joinPath directory.text path.text }
    if t.contains path.text then .ok path else .error (.importMissing path.value.display)

/-- The keys of the environments, and the block of the chosen one if there is one. -/
def environmentBlock (name : Text) (environments : Value) :
    Except ReadFailure (List Value × Option Value) :=
  match environments.opened with
  | .map es => .ok (Entries.keys es, Entries.text? name es)
  | .list xs => if xs.any (Value.same (.text name)) then .error .unusable else .error .notMap
  | .text t => if hasPart t name then .error .unusable else .error .notMap
  | _ => .error .unusable

/-- The entries of a map. -/
def entriesOf (data : Value) : Entries :=
  match data.opened with
  | .map es => es
  | _ => []

/-- The map with the entries of the second over those of the first. -/
def layered (base upper : Entries) : Except ReadFailure Value :=
  match Entries.layer? base upper with
  | some es => .ok (.map es)
  | none => .error .endless

/-- Maps of which none is inside itself are merged. -/
theorem layered_of_plain {base upper : Entries} (h : Entries.meetsKnot base upper = false) :
    layered base upper = .ok (.map (Entries.deepMerge base upper)) := by
  simp [layered, Entries.layer?_eq_deepMerge h]

namespace Surroundings

/-- The data with the entries of the chosen environment over them. -/
def applyEnvironment (w : Surroundings) (data : Value) : Reading Value := do
  let (environments, data) := data.takeOut "environments"
  match w.environment.filter fun name => !name.isEmpty with
  | none => return data
  | some name =>
    match ← environmentBlock name ((environments.filter Value.truth).getD (.map [])) with
    | (names, none) =>
      Reading.say .debug "No environment override found"
        [("env", .text name), ("available_environments", .list names)]
      return data
    | (_, some block) =>
      match block.opened with
      | .map upper =>
        Reading.say .debug "Applying environment overrides"
          [("env", .text name), ("override_keys", .list (Entries.keys upper))]
        layered (entriesOf data) upper
      | _ => throw .notMap

/-- The data with the entries of the imported files below them, of which an earlier file counts
more. -/
def readImports (w : Surroundings) (read : FilePath → Reading Value) (directory : FilePath)
    (data : Value) : List Value → Reading Value
  | [] => return data
  | member :: members => do
    let path ← importPath w.files directory member
    Reading.say .debug "Merging imported configuration" [("path", path.value)]
    let imported ← read path
    let data ← layered (entriesOf imported) (entriesOf data)
    readImports w read directory data members

/-- The data of the file, with those of the files that it imports. -/
def readFile (w : Surroundings) : Nat → FilePath → Reading Value
  | 0, _ => throw .cycle
  | fuel + 1, path => do
    Reading.say .debug "Loading YAML configuration"
      [("path", path.value), ("env", Value.ofText? w.environment)]
    if !w.files.contains path.text then throw (.fileMissing path.text)
    let place : FilePath := { path with text := w.files.absolute path.text }
    let text ← Reading.fill w.vars place.value (← Reading.readText w.files path.text)
    let document ← (Document.parse (← Reading.nextDocument) text).mapError ReadFailure.document
    let (imports, data) := (← topData document).takeOut "imports"
    let members ← importList imports
    let directory : FilePath := { place with text := directoryOf place.text }
    let data ← w.readImports (readFile w fuel) directory data members
    w.applyEnvironment data

/-- The data of a configuration file.  Files that do not import each other in a circle form chains
that are no longer than their number. -/
def readConfig (w : Surroundings) (path : Text) : Reading Value :=
  w.readFile (w.files.files.length + 1) ⟨path, false⟩

/-- The settings of a load from a configuration file. -/
def loadSettings (w : Surroundings) (path : Text) (j : Journal) :
    Except ConfigFailure OutputSettings × Journal :=
  match (w.readConfig path).runWith j with
  | (.error f, j) => (.error (f.report path), j)
  | (.ok data, j) =>
    match checkOutput data with
    | .ok s => (.ok s, j)
    | .faulty issues => (.error (.invalid path issues), j)

end Surroundings

end StagedLoad

import StagedLoad.Settings.Checked
import StagedLoad.Value
import StagedLoad.Yaml.Token

/-!
# Failures of configurations

Why a configuration could not be read, and the error that is reported for one that is not valid.
-/

namespace StagedLoad

/-- Why files could not be read as a configuration. -/
inductive ReadFailure where
  /-- There is no such file. -/
  | fileMissing (path : Text)
  /-- There is no such file to import. -/
  | importMissing (path : Text)
  /-- A directory is read as a file. -/
  | directory
  /-- The bytes of a file are not text in UTF-8. -/
  | notUtf8
  /-- A variable is not set. -/
  | variableMissing (name : Text)
  /-- The text is not a document with a value. -/
  | document (f : DocumentFault)
  /-- Something has a kind that cannot be used at its place. -/
  | unusable
  /-- Something other than a map stands where entries are asked for. -/
  | notMap
  /-- A file imports itself. -/
  | cycle
  /-- Maps that are inside themselves are merged without end. -/
  | endless
  /-- A number has too many digits to be logged. -/
  | longInteger
deriving DecidableEq, Repr

/-- What is said of the failures that have a message of their own. -/
def ReadFailure.message? : ReadFailure → Option Text
  | fileMissing path => some ("YAML file not found: " ++ path)
  | importMissing path => some ("Imported YAML file not found: " ++ path)
  | variableMissing name => some ("Missing environment variable: " ++ name)
  | _ => none

/-- A configuration that is not valid, with what is wrong and where. -/
structure ConfigError where
  brief : Text
  file : Option Text := none
  errors : List Text := []
deriving DecidableEq, Repr

/-- The whole message, with a line for each part. -/
def ConfigError.message (e : ConfigError) : Text :=
  let file : Text := match e.file with
    | some f => if f.isEmpty then [] else "\n  File: " ++ f
    | none => []
  let line (error : Text) : Text := "\n    - " ++ error
  "Configuration validation error" ++ file ++ "\n  Error: " ++ e.brief ++ e.errors.flatMap line

/-- Why there are no settings. -/
inductive ConfigFailure where
  /-- A document is not well formed; what is wrong with it is said in free words. -/
  | badDocument (file : Text)
  /-- A text or a value in it does not exist; what is wrong with it is said in free words. -/
  | badText (file : Text)
  /-- A variable is not set. -/
  | unset (file name : Text)
  /-- The data have faults. -/
  | invalid (file : Text) (issues : List Issue)
  /-- The files could not be read in the first place. -/
  | unread (f : ReadFailure)
deriving DecidableEq, Repr

/-- The error that is reported, where its words are fixed. -/
def ConfigFailure.error? : ConfigFailure → Option ConfigError
  | unset file name => some ⟨"Missing environment variable: " ++ name, some file, []⟩
  | invalid file issues =>
    let brief := toString issues.length ++ " invalid setting(s)"
    some ⟨brief, some file, issues.map fun i => Text.ofString i.text⟩
  | _ => none

/-- How a failure to read the file is reported. -/
def ReadFailure.report (file : Text) : ReadFailure → ConfigFailure
  | document .malformed => .badDocument file
  | document .noSuchValue => .badText file
  | notUtf8 => .badText file
  | longInteger => .badText file
  | variableMissing name => .unset file name
  | f => .unread f

end StagedLoad

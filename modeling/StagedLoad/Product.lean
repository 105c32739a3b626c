import StagedLoad.Text.Quoted

/-!
# The words of the settings

A setting such as the product or the authentication mode is one of a few words.  `Word.read` finds
the member that a word stands for and refuses every other text, and reading is exact: a word in
other letters is refused.

The words are those of the two products that SQL is generated for, the two ways to log in, and the
two ways to fold staging tables into a target.
-/

namespace StagedLoad

/-! ## Closed sets of words -/

/-- A closed set whose members are written as words. -/
class Word (α : Type) where
  /-- All members, in the order in which they are listed to a reader. -/
  all : List α
  /-- The word of a member. -/
  word : α → String
  /-- The name of the set in messages. -/
  kind : String

/-- A text that is none of the words of a set. -/
structure UnknownWord where
  text : Text
  kind : String
deriving DecidableEq, Repr

/-- What is said of a text that is none of the words. -/
def UnknownWord.message (e : UnknownWord) : Text :=
  quotedText e.text ++ " is not a valid " ++ e.kind

namespace Word

variable {α : Type} [Word α]

/-- The member with the word. -/
def find? (w : Text) : Option α := (all : List α).find? fun a => word a == w

/-- The member with the word, or the refusal. -/
def read (w : Text) : Except UnknownWord α :=
  match find? w with
  | some a => .ok a
  | none => .error ⟨w, kind α⟩

/-- The words of the set in apostrophes, the last two joined by "or". -/
def choices (α : Type) [Word α] : String :=
  let quoted := (all : List α).map fun a => "\x27" ++ word a ++ "\x27"
  match quoted.reverse with
  | [] => ""
  | [w] => w
  | w :: ws => ", ".intercalate ws.reverse ++ " or " ++ w

end Word

/-! ## Products, logins and strategies -/

/-- The product that the generated SQL must run on. -/
inductive Product where
  /-- SQL Server and Azure SQL Database. -/
  | sqlServer
  /-- A dedicated pool of Azure Synapse Analytics: tables are renamed as objects, there is no
  unlimited national text, and definitions may not run inside a transaction of the user. -/
  | synapse
deriving DecidableEq, Repr, Inhabited

instance : Word Product where
  all := [.sqlServer, .synapse]
  word
    | .sqlServer => "sql_server"
    | .synapse => "azure_synapse_analytics"
  kind := "TargetVariant"

/-- How a connection logs in. -/
inductive AuthMode where
  /-- With user name and password. -/
  | sql
  /-- With the managed identity of the machine. -/
  | managedIdentity
deriving DecidableEq, Repr, Inhabited

instance : Word AuthMode where
  all := [.sql, .managedIdentity]
  word
    | .sql => "sql"
    | .managedIdentity => "aad_msi"
  kind := "AuthMode"

/-- How staging tables are folded into the target. -/
inductive MergeStrategy where
  /-- One MERGE statement. -/
  | merge
  /-- An UPDATE of the matching rows, then an INSERT of the others. -/
  | updateInsert
deriving DecidableEq, Repr, Inhabited

instance : Word MergeStrategy where
  all := [.merge, .updateInsert]
  word
    | .merge => "merge"
    | .updateInsert => "update_insert"
  kind := "MergeStrategy"

end StagedLoad

import StagedLoad.Settings
import StagedLoad.Settings.Integer
import StagedLoad.Text

/-!
# Checking settings

Plain data become settings if every field has its kind and no rule is broken.  Fields are checked in
the order in which they are declared and all faults are reported; the rule on credentials is checked
last, and only of a connection without faults.  Keys that are no fields are ignored.

* `checkOutput` : the settings of a load.
* `checkOutput_eq_ok` : which data pass, and as which settings; likewise for the parts.
-/

namespace StagedLoad

open Checked

/-- Turns the reading of one piece of data into a check. -/
def Checked.ofExcept {α : Type} : Except Reason α → Checked α
  | .ok a => ok a
  | .error r => fault r

/-- A text; bytes in UTF-8 are one. -/
def checkText : Value → Checked Text
  | .text t => ok t
  | .bytes bs =>
    match utf8Text? bs with
    | some t => ok t
    | none => fault .notUtf8
  | _ => fault .notText

/-- An integer. -/
def checkInteger (v : Value) : Checked Int := Checked.ofExcept (readInteger v)

/-- One of the words of a closed set; a text with a half of a surrogate pair cannot be read as one.
-/
def checkWord (α : Type) [Word α] (v : Value) : Checked α :=
  match checkText v with
  | ok w =>
    if w.chars?.isNone then fault .notUtf8
    else
      match Word.find? w with
      | some a => ok a
      | none => fault (.notChoice (Word.choices α))
  | faulty _ => fault (.notChoice (Word.choices α))

/-- A list of texts. -/
def checkTexts (v : Value) : Checked (List Text) :=
  match v.opened with
  | .list xs => eachFrom 0 checkText xs
  | _ => fault .notList

/-- Nothing, or what the check accepts. -/
def checkOptional {α : Type} (check : Value → Checked α) : Value → Checked (Option α)
  | .null => ok none
  | v => some <$> check v

/-- The entries of a record. -/
def checkRecord (record : String) (v : Value) : Checked Entries :=
  match v.opened with
  | .map es => ok es
  | _ => fault (.notRecord record)

/-- A field that must be there. -/
def required {α : Type} (es : Entries) (name : String) (check : Value → Checked α) : Checked α :=
  under (.field name) (match es.text? name with
    | some v => check v
    | none => fault .missing)

/-- A field that must be there is there, and passes its check. -/
theorem required_eq_ok {α : Type} {es : Entries} {name : String} {check : Value → Checked α}
    {a : α} :
    required es name check = .ok a ↔ ∃ v, es.text? name = some v ∧ check v = .ok a := by
  rw [required, under_eq_ok]
  cases es.text? name with
  | none => simp [fault]
  | some v => simp

/-- A field with a default. -/
def optional {α : Type} (es : Entries) (name : String) (default : α) (check : Value → Checked α) :
    Checked α :=
  match es.text? name with
  | some v => under (.field name) (check v)
  | none => ok default

/-- A login by password needs both its parts. -/
def ConnectionSettings.credentialsSuffice (c : ConnectionSettings) : Bool :=
  c.authMode != .sql || (isPresent c.username && isPresent c.password)

/-- The settings of a connection. -/
def checkConnection (v : Value) : Checked ConnectionSettings :=
  (checkRecord "ConnectionConfig" v).andThen fun es =>
    let fields : Checked ConnectionSettings := ConnectionSettings.mk
      <$> required es "server" checkText
      <*> required es "database" checkText
      <*> optional es "driver" "ODBC Driver 18 for SQL Server" checkText
      <*> optional es "port" 1433 checkInteger
      <*> optional es "timeout" 30 checkInteger
      <*> optional es "auth_mode" .managedIdentity (checkWord AuthMode)
      <*> optional es "username" none (checkOptional checkText)
      <*> optional es "password" none (checkOptional checkText)
      <*> optional es "product" .sqlServer (checkWord Product)
      <*> optional es "identifier_quote" "\x22" checkText
    fields.andThen fun c =>
      if c.credentialsSuffice then ok c else fault (.refused .credentialsMissing)

/-- Data pass if every field does and the credentials suffice. -/
theorem checkConnection_eq_ok {v : Value} {c : ConnectionSettings} :
    checkConnection v = .ok c ↔ ∃ es, checkRecord "ConnectionConfig" v = .ok es ∧
      c.credentialsSuffice = true ∧
      required es "server" checkText = .ok c.server ∧
      required es "database" checkText = .ok c.database ∧
      optional es "driver" ("ODBC Driver 18 for SQL Server" : Text) checkText = .ok c.driver ∧
      optional es "port" 1433 checkInteger = .ok c.port ∧
      optional es "timeout" 30 checkInteger = .ok c.timeout ∧
      optional es "auth_mode" .managedIdentity (checkWord AuthMode) = .ok c.authMode ∧
      optional es "username" none (checkOptional checkText) = .ok c.username ∧
      optional es "password" none (checkOptional checkText) = .ok c.password ∧
      optional es "product" .sqlServer (checkWord Product) = .ok c.product ∧
      optional es "identifier_quote" ("\x22" : Text) checkText = .ok c.identifierQuote := by
  simp only [checkConnection, andThen_eq_ok, seq_eq_ok, map_eq_ok]
  constructor
  · rintro ⟨es, hes, _, ⟨_, _, ⟨_, _, ⟨_, _, ⟨_, _, ⟨_, _, ⟨_, _, ⟨_, _, ⟨_, _, ⟨_, _,
      ⟨_, hserver, rfl⟩, hdatabase, rfl⟩, hdriver, rfl⟩, hport, rfl⟩, htimeout, rfl⟩, hmode, rfl⟩,
      husername, rfl⟩, hpassword, rfl⟩, hproduct, rfl⟩, hquote, rfl⟩, hpassed⟩
    split at hpassed
    · next hsuffice =>
      cases hpassed
      exact ⟨es, hes, hsuffice, hserver, hdatabase, hdriver, hport, htimeout, hmode, husername,
        hpassword, hproduct, hquote⟩
    · cases hpassed
  · rintro ⟨es, hes, hsuffice, hserver, hdatabase, hdriver, hport, htimeout, hmode, husername,
      hpassword, hproduct, hquote⟩
    exact ⟨es, hes, c, ⟨_, _, ⟨_, _, ⟨_, _, ⟨_, _, ⟨_, _, ⟨_, _, ⟨_, _, ⟨_, _, ⟨_, _,
      ⟨_, hserver, rfl⟩, hdatabase, rfl⟩, hdriver, rfl⟩, hport, rfl⟩, htimeout, rfl⟩, hmode, rfl⟩,
      husername, rfl⟩, hpassword, rfl⟩, hproduct, rfl⟩, hquote, rfl⟩, if_pos hsuffice⟩

/-- The keys of a merge, of which there is at least one. -/
def checkKeys (v : Value) : Checked (List Text) :=
  (checkTexts v).andThen fun keys => if keys.isEmpty then fault (.refused .keysEmpty) else ok keys

/-- The rule of a merge, which is not empty if it is there. -/
def checkRule (v : Value) : Checked (Option (List Text)) :=
  (checkOptional checkTexts v).andThen fun rule =>
    if rule == some [] then fault (.refused .ruleEmpty) else ok rule

/-- The settings of a merge. -/
def checkMerge (v : Value) : Checked MergeSettings :=
  (checkRecord "MergeConfig" v).andThen fun es =>
    MergeSettings.mk
      <$> required es "keys" checkKeys
      <*> optional es "rule" none checkRule
      <*> optional es "strategy" .merge (checkWord MergeStrategy)

/-- Data pass if every field does. -/
theorem checkMerge_eq_ok {v : Value} {m : MergeSettings} :
    checkMerge v = .ok m ↔ ∃ es, checkRecord "MergeConfig" v = .ok es ∧
      required es "keys" checkKeys = .ok m.keys ∧
      optional es "rule" none checkRule = .ok m.rule ∧
      optional es "strategy" .merge (checkWord MergeStrategy) = .ok m.strategy := by
  simp only [checkMerge, andThen_eq_ok, seq_eq_ok, map_eq_ok]
  constructor
  · rintro ⟨es, hes, _, _, ⟨_, _, ⟨_, hkeys, rfl⟩, hrule, rfl⟩, hstrategy, rfl⟩
    exact ⟨es, hes, hkeys, hrule, hstrategy⟩
  · rintro ⟨es, hes, hkeys, hrule, hstrategy⟩
    exact ⟨es, hes, _, _, ⟨_, _, ⟨_, hkeys, rfl⟩, hrule, rfl⟩, hstrategy, rfl⟩

/-- The name of the target table, which is not blank, without blanks around it. -/
def checkTable (v : Value) : Checked Text :=
  (checkText v).andThen fun t =>
    if isBlankText t then fault (.refused .tableBlank) else ok (strip t)

/-- The settings of a load. -/
def checkOutput (v : Value) : Checked OutputSettings :=
  (checkRecord "OutputConfig" v).andThen fun es =>
    OutputSettings.mk
      <$> required es "connection" checkConnection
      <*> required es "table" checkTable
      <*> optional es "merge" none (checkOptional checkMerge)
      <*> optional es "table_constraint" none (checkOptional checkText)
      <*> optional es "table_option" none (checkOptional checkText)
      <*> optional es "before_load" none (checkOptional checkText)
      <*> optional es "after_load" none (checkOptional checkText)

/-- Data pass if every field does, and the settings hold what the fields were checked to be. -/
theorem checkOutput_eq_ok {v : Value} {s : OutputSettings} :
    checkOutput v = .ok s ↔ ∃ es, checkRecord "OutputConfig" v = .ok es ∧
      required es "connection" checkConnection = .ok s.connection ∧
      required es "table" checkTable = .ok s.table ∧
      optional es "merge" none (checkOptional checkMerge) = .ok s.merge ∧
      optional es "table_constraint" none (checkOptional checkText) = .ok s.tableConstraint ∧
      optional es "table_option" none (checkOptional checkText) = .ok s.tableOption ∧
      optional es "before_load" none (checkOptional checkText) = .ok s.beforeLoad ∧
      optional es "after_load" none (checkOptional checkText) = .ok s.afterLoad := by
  simp only [checkOutput, andThen_eq_ok, seq_eq_ok, map_eq_ok]
  constructor
  · rintro ⟨es, hes, _, _, ⟨_, _, ⟨_, _, ⟨_, _, ⟨_, _, ⟨_, _, ⟨_, hconnection, rfl⟩, htable, rfl⟩,
      hmerge, rfl⟩, hconstraint, rfl⟩, hoption, rfl⟩, hbefore, rfl⟩, hafter, rfl⟩
    exact ⟨es, hes, hconnection, htable, hmerge, hconstraint, hoption, hbefore, hafter⟩
  · rintro ⟨es, hes, hconnection, htable, hmerge, hconstraint, hoption, hbefore, hafter⟩
    exact ⟨es, hes, _, _, ⟨_, _, ⟨_, _, ⟨_, _, ⟨_, _, ⟨_, _, ⟨_, hconnection, rfl⟩, htable, rfl⟩,
      hmerge, rfl⟩, hconstraint, rfl⟩, hoption, rfl⟩, hbefore, rfl⟩, hafter, rfl⟩

end StagedLoad

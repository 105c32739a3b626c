import StagedLoad.Proofs.Sheet.Data
import StagedLoad.Proofs.Substitution

/-!
# The file of an account

A file says where the database is, who logs in with which password, and which table is loaded.  All
but the password is written as it is; whatever stands for the password is read as a plain scalar,
and the settings have the password that comes out of it.

* `Account.parse_filled`, `Account.parse_stopped` : what the file is read as.
* `Account.checkOutput_iff` : the settings of the file.
-/

namespace StagedLoad

open Yaml

/-! ## Texts that are written as they are -/

/-- The text can be written in a document as it is: as a plain scalar of one line that is read as
this text again. -/
structure IsVerbatim (t : Text) : Prop where
  chars : ∀ s ∈ t, s.isChar isDocumentChar = true
  plain : IsPlain t.shown
  isText : resolve t = .text

/-- The text stays on one line and begins like a plain scalar. -/
def OpensPlain (t : Text) : Prop :=
  (∀ x ∈ t.shown, isBreak x = false) ∧
    ∃ x rest, t.shown = x :: rest ∧ Scan.beginsPlain false x rest = true

/-- The text is read as another one, behind which it has spaces and a comment at most. -/
structure ReadsAs (t t' : Text) : Prop where
  chars : ∀ s ∈ t, s.isChar isDocumentChar = true
  verbatim : IsVerbatim t'
  behind : ∃ trailing, IsTrailing trailing ∧ t.shown = t'.shown ++ trailing

/-- What can be written as it is begins like a plain scalar. -/
theorem IsVerbatim.opensPlain {t : Text} (h : IsVerbatim t) : OpensPlain t :=
  ⟨fun x hx => (h.plain.oneLine x hx).2, h.plain.plain⟩

/-- What can be written as it is will be read as itself. -/
theorem IsVerbatim.readsAs {t : Text} (h : IsVerbatim t) : ReadsAs t t :=
  ⟨h.chars, h, [], .blank 0, (List.append_nil t.shown).symm⟩

theorem IsVerbatim.ne_nil {t : Text} (h : IsVerbatim t) : t ≠ [] := by
  rintro rfl
  exact h.plain.ne_nil rfl

theorem IsVerbatim.ne_return {t : Text} (h : IsVerbatim t) : ∀ s ∈ t, s ≠ .char '\r' := by
  rintro s hs rfl
  have hmem : '\r' ∈ t.shown := List.mem_map_of_mem (f := Symbol.shown) hs
  exact absurd (h.plain.oneLine _ hmem).2 (by decide)

/-- What is written as it is has its text as its value. -/
theorem IsVerbatim.plainValue_eq {t : Text} (h : IsVerbatim t) (number n : Nat) :
    plainValue number n t.shown = .ok (.text t) := by
  have htext : resolve (.ofChars t.shown) = .text := by
    rw [Text.ofChars_shown h.chars]
    exact h.isText
  rw [plainValue_of_text htext, Text.ofChars_shown h.chars]

/-- A text that begins like a plain scalar begins with the text it is read as. -/
theorem OpensPlain.exists_inline {t : Text} (h : OpensPlain t) :
    ∃ text, IsInline text ∧ Splits text t.shown := by
  obtain ⟨hline, x, rest, hfirst, hbegin⟩ := h
  obtain ⟨hgap, hhash⟩ := Scan.head_of_beginsPlain hbegin
  rw [hfirst] at hline ⊢
  refine Yaml.exists_inline hline (List.cons_ne_nil x rest) ⟨?_, ?_⟩ ?_
  · intro hspace
    cases hspace
    cases hgap
  · intro hcomment
    exact hhash (Option.some.inj hcomment)
  · intro hstop
    cases hstop with
    | tab => cases hgap
    | mark hmark =>
      obtain ⟨_, hnone⟩ | ⟨hnone, _⟩ := Scan.beginsPlain_cases hbegin
      · exact hnone ':' (by decide) rfl
      · rw [hmark] at hnone
        cases hnone

/-- Where the text in front of spaces and a comment is inline, it is plain as well. -/
theorem OpensPlain.isPlain {t : Text} {text trailing : List Char} (h : OpensPlain t)
    (ht : t.shown = text ++ trailing) (htext : IsInline text) (hmark : text.getLast? ≠ some ':')
    (htrailing : IsTrailing trailing) : IsPlain text := by
  obtain ⟨_, x, rest, hfirst, hbegin⟩ := h
  obtain ⟨y, text, rfl⟩ := List.exists_cons_of_ne_nil htext.ne_nil
  rw [ht, List.cons_append, List.cons.injEq] at hfirst
  obtain ⟨rfl, rfl⟩ := hfirst
  exact { htext with plain := ⟨y, text, rfl, Scan.beginsPlain_of_append hbegin htrailing.atGap⟩,
                     noMark := hmark }

/-- A key is written as it is. -/
theorem Yaml.IsKey.isPlain {cs : List Char} (h : IsKey cs) : IsPlain cs := by
  have hmark : cs.getLast? ≠ some ':' := by
    intro hlast
    exact absurd (h.chars _ (List.mem_of_getLast? hlast)) (by decide)
  have hinline := h.isInline
  obtain ⟨x, cs, rfl⟩ := List.exists_cons_of_ne_nil h.ne_nil
  have hx : isKeyChar x = true := h.chars x List.mem_cons_self
  exact { hinline with plain := ⟨x, cs, rfl, Scan.beginsPlain_of_isKeyChar hx cs⟩,
                       noMark := hmark }

/-- A key is written as it is, whatever its characters are. -/
theorem isVerbatim_of_isKey {t : Text} (hchars : ∀ s ∈ t, s.isChar isDocumentChar = true)
    (h : IsKey t.shown) : IsVerbatim t where
  chars := hchars
  plain := h.isPlain
  isText := Text.ofChars_shown hchars ▸ h.isText

/-! ## The file -/

/-- What a file says besides the password. -/
structure Account where
  server : Text
  database : Text
  username : Text
  table : Text

namespace Account

/-- The file in front of the password. -/
def before (a : Account) : Text :=
  "connection:\n  server: " ++ a.server ++ "\n  database: " ++ a.database ++
    "\n  auth_mode: sql\n  username: " ++ a.username ++ "\n  password: "

/-- The file behind the password. -/
def behind (a : Account) : Text := "\ntable: " ++ a.table ++ "\n"

/-- The file, which takes the password from the environment. -/
def file (a : Account) : Text := a.before ++ "$\x7bSQL_PASSWORD\x7d" ++ a.behind

/-- What the file says is written as it is, and refers to no variable; the table has a name. -/
structure IsSound (a : Account) : Prop where
  server : IsVerbatim a.server
  database : IsVerbatim a.database
  username : IsVerbatim a.username
  table : IsVerbatim a.table
  noReference : ∀ t ∈ [a.server, a.database, a.username, a.table],
    ∀ r : Reference, ¬ r.written <:+: t
  named : isBlankText a.table = false

/-- The connection, with a password or without. -/
def connection (a : Account) (password : Option Text) : ConnectionSettings :=
  { server := a.server
    database := a.database
    authMode := .sql
    username := some a.username
    password }

/-- The settings with the password; all that the file does not say is as it is by default. -/
def settings (a : Account) (password : Text) : OutputSettings :=
  { connection := a.connection (some password), table := strip a.table }

/-- The lines before the password. -/
def lines (a : Account) : List Line :=
  [⟨"server".toList, a.server.shown, []⟩, ⟨"database".toList, a.database.shown, []⟩,
    ⟨"auth_mode".toList, "sql".toList, []⟩, ⟨"username".toList, a.username.shown, []⟩]

/-- The file with a password and what is behind it on its line. -/
def sheet (a : Account) (password trailing : List Char) : Sheet where
  name := "connection".toList
  first := ⟨"server".toList, a.server.shown, []⟩
  more := a.lines.tail ++ [⟨"password".toList, password, trailing⟩]
  others := [⟨"table".toList, a.table.shown, []⟩]

/-- The file with a text for the password, line by line. -/
theorem shown_filled (a : Account) (t : Text) :
    (a.before ++ t ++ a.behind).shown = "connection".toList ++ ':' :: '\n' ::
      (Line.block 2 a.lines ++ (List.replicate 2 ' ' ++ ("password".toList ++ ':' :: ' ' ::
        (t.shown ++ a.behind.shown)))) := by
  have hserver : "connection:\n  server: ".toList = "connection".toList ++
      [':', '\n', ' ', ' '] ++ "server".toList ++ [':', ' '] := by decide
  have hdatabase : "\n  database: ".toList =
      ['\n', ' ', ' '] ++ "database".toList ++ [':', ' '] := by decide
  have husername : "\n  auth_mode: sql\n  username: ".toList = ['\n', ' ', ' '] ++
      "auth_mode".toList ++ [':', ' '] ++ "sql".toList ++ ['\n', ' ', ' '] ++ "username".toList ++
        [':', ' '] := by decide
  have hpassword : "\n  password: ".toList =
      ['\n', ' ', ' '] ++ "password".toList ++ [':', ' '] := by decide
  simp only [before, Text.shown_append, Text.shown_ofString, hserver, hdatabase, husername,
    hpassword, Line.block, lines, Line.written, List.flatMap_cons, List.flatMap_nil, List.replicate,
    List.append_assoc, List.cons_append, List.nil_append, List.append_nil]

/-- Behind the password there is one more line. -/
theorem shown_behind (a : Account) :
    a.behind.shown = '\n' :: Line.block 0 [⟨"table".toList, a.table.shown, []⟩] := by
  have htable : "\ntable: ".toList = ['\n'] ++ "table".toList ++ [':', ' '] := by decide
  have hend : "\n".toList = ['\n'] := by decide
  simp only [behind, Text.shown_append, Text.shown_ofString, htable, hend, Line.block, Line.written,
    List.flatMap_cons, List.flatMap_nil, List.replicate_zero, List.append_assoc, List.cons_append,
    List.nil_append, List.append_nil]

/-- **The file is a sheet** with the password on its last indented line. -/
theorem written_sheet (a : Account) (password trailing : List Char) :
    (a.sheet password trailing).written =
      (a.before ++ .ofChars (password ++ trailing) ++ a.behind).shown := by
  have hlines : (a.sheet password trailing).written = "connection".toList ++ ':' :: '\n' ::
      (Line.block 2 (a.lines ++ [⟨"password".toList, password, trailing⟩]) ++
        Line.block 0 [⟨"table".toList, a.table.shown, []⟩]) := rfl
  have hlast : Line.block 2 [⟨"password".toList, password, trailing⟩] = List.replicate 2 ' ' ++
      ("password".toList ++ ':' :: ' ' :: (password ++ (trailing ++ ['\n']))) :=
    List.append_nil _
  have hblock : Line.block 2 (a.lines ++ [⟨"password".toList, password, trailing⟩]) =
      Line.block 2 a.lines ++ Line.block 2 [⟨"password".toList, password, trailing⟩] :=
    List.flatMap_append
  rw [hlines, hblock, hlast, shown_filled, shown_behind, Text.shown_ofChars]
  simp only [List.append_assoc, List.cons_append, List.nil_append]

/-- The words of the file. -/
def words : List String :=
  ["connection", "server", "database", "auth_mode", "sql", "username", "password", "table"]

/-- The words of the file are keys. -/
theorem isKey (word : String) (hword : word ∈ words) : IsKey word.toList := by
  have hall : ∀ word ∈ words, word.toList ≠ [] ∧ word.toList.all isKeyChar = true ∧
      word.toList.length ≤ 1024 ∧ resolve (.ofChars word.toList) = .text := by
    decide
  obtain ⟨hne, hchars, hshort, htext⟩ := hall word hword
  exact ⟨hne, List.all_eq_true.mp hchars, hshort, htext⟩

/-- The lines before the password are sound. -/
theorem isSound_lines {a : Account} (h : a.IsSound) : ∀ l ∈ a.lines, l.IsSound := by
  have hblank : IsTrailing [] := .blank 0
  simp only [lines, List.forall_mem_cons]
  exact ⟨⟨isKey _ (by decide), h.server.plain, hblank⟩,
    ⟨isKey _ (by decide), h.database.plain, hblank⟩,
    ⟨isKey _ (by decide), (isKey "sql" (by decide)).isPlain, hblank⟩,
    ⟨isKey _ (by decide), h.username.plain, hblank⟩, nofun⟩

/-- With a plain password the whole sheet is. -/
theorem isSound_sheet {a : Account} (h : a.IsSound) {password trailing : List Char}
    (hpassword : IsPlain password) (htrailing : IsTrailing trailing) :
    (a.sheet password trailing).IsSound where
  name := isKey _ (by decide)
  under := by
    have hlast : Line.IsSound ⟨"password".toList, password, trailing⟩ :=
      ⟨isKey _ (by decide), hpassword, htrailing⟩
    intro l hl
    rcases List.mem_append.mp (show l ∈ a.lines ++ [_] from hl) with hl | hl
    · exact isSound_lines h l hl
    · rw [List.mem_singleton.mp hl]
      exact hlast
  others := List.forall_mem_singleton.mpr ⟨isKey _ (by decide), h.table.plain, .blank 0⟩

/-- The words of the file are texts, and none comes twice. -/
theorem hasKeys_sheet (a : Account) (password trailing : List Char) :
    (a.sheet password trailing).HasKeys := by
  let d := a.sheet password trailing
  have hunder : (d.first :: d.more).map Line.key =
      ["server", "database", "auth_mode", "username", "password"].map String.toList := rfl
  have hothers : "connection".toList :: d.others.map Line.key =
      ["connection", "table"].map String.toList := rfl
  refine ⟨(isKey "connection" (by decide)).isText, ?_,
    List.forall_mem_singleton.mpr (isKey "table" (by decide)).isText, ?_, ?_⟩
  · have htexts : ∀ key ∈ (d.first :: d.more).map Line.key,
        resolve (.ofChars key) = .text := by
      rw [hunder]
      decide
    exact fun l hl => htexts l.key (List.mem_map_of_mem hl)
  · show ((d.first :: d.more).map Line.key).Nodup
    rw [hunder]
    decide
  · show ("connection".toList :: d.others.map Line.key).Nodup
    rw [hothers]
    decide

/-- The entries under the name of the connection. -/
def connectionData (a : Account) (password : Value) : Entries :=
  [(.text "server", .text a.server), (.text "database", .text a.database),
    (.text "auth_mode", .text "sql"), (.text "username", .text a.username),
    (.text "password", password)]

/-- The data of the file, with something under the password. -/
def data (a : Account) (password : Value) : Entries :=
  [(.text "connection", .map (a.connectionData password)), (.text "table", .text a.table)]

/-- The data of the file are those of the account with the value of the password. -/
theorem data_sheet {a : Account} (h : a.IsSound) (password trailing : List Char) (number : Nat) :
    (a.sheet password trailing).data number = (plainValue number 12 password).map a.data := by
  have hsql : plainValue number 8 "sql".toList = .ok (.text "sql") :=
    plainValue_of_text (isKey "sql" (by decide)).isText number 8
  have hothers : Line.data number (a.sheet password trailing).besides
      (a.sheet password trailing).others = .ok [(.text "table", .text a.table)] := by
    show (plainValue number 14 a.table.shown >>= _) = _
    rw [h.table.plainValue_eq]
    rfl
  have hlines : (a.sheet password trailing).first :: (a.sheet password trailing).more =
      a.lines ++ [⟨"password".toList, password, trailing⟩] := rfl
  rw [Sheet.data, hothers, hlines]
  simp only [lines, List.cons_append, List.nil_append, Line.data,
    h.server.plainValue_eq, h.database.plainValue_eq, hsql,
    h.username.plainValue_eq]
  cases plainValue number 12 password <;> rfl

section

variable {a : Account} {password : Value}

/-- The connection is checked by its password, all else is in order. -/
theorem checkConnection_data (a : Account) (password : Value) :
    checkConnection (.map (a.connectionData password)) =
      ((checkOptional checkText password).under (.field "password")).andThen fun p =>
        if (a.connection p).credentialsSuffice then .ok (a.connection p)
        else .fault (.refused .credentialsMissing) := by
  let es := a.connectionData password
  have hserver : required es "server" checkText = .ok a.server := rfl
  have hdatabase : required es "database" checkText = .ok a.database := rfl
  have hdriver : optional es "driver" ("ODBC Driver 18 for SQL Server" : Text) checkText =
      .ok "ODBC Driver 18 for SQL Server" := rfl
  have hport : optional es "port" 1433 checkInteger = .ok 1433 := rfl
  have htimeout : optional es "timeout" 30 checkInteger = .ok 30 := rfl
  have hauth : optional es "auth_mode" .managedIdentity (checkWord AuthMode) = .ok .sql := rfl
  have husername : optional es "username" none (checkOptional checkText) =
      .ok (some a.username) := rfl
  have hpassword : optional es "password" none (checkOptional checkText) =
      (checkOptional checkText password).under (.field "password") := rfl
  have hproduct : optional es "product" .sqlServer (checkWord Product) = .ok .sqlServer := rfl
  have hquote : optional es "identifier_quote" ("\x22" : Text) checkText = .ok "\x22" := rfl
  have hrecord : checkRecord "ConnectionConfig" (.map es) = .ok es := rfl
  show checkConnection (.map es) = _
  rw [checkConnection, hrecord]
  dsimp only [Checked.andThen]
  rw [hserver, hdatabase, hdriver, hport, htimeout, hauth, husername, hpassword, hproduct, hquote]
  cases (checkOptional checkText password).under (.field "password") <;> rfl

/-- The settings are checked by their connection, all else is in order. -/
theorem checkOutput_data (h : isBlankText a.table = false) (password : Value) :
    checkOutput (.map (a.data password)) =
      ((checkConnection (.map (a.connectionData password))).under (.field "connection")).andThen
        fun c => .ok { connection := c, table := strip a.table } := by
  let es := a.data password
  have hconnection : required es "connection" checkConnection =
      (checkConnection (.map (a.connectionData password))).under (.field "connection") := rfl
  have htable : required es "table" checkTable = .ok (strip a.table) := by
    have hchecked : checkTable (.text a.table) = .ok (strip a.table) := by
      rw [checkTable, checkText, Checked.andThen, h]
      rfl
    show (checkTable (.text a.table)).under _ = _
    rw [hchecked]
    rfl
  have hmerge : optional es "merge" none (checkOptional checkMerge) = .ok none := rfl
  have htext (name : String) (hname : es.text? name = none) :
      optional es name none (checkOptional checkText) = .ok none := by
    rw [optional, hname]
  have hrecord : checkRecord "OutputConfig" (.map es) = .ok es := rfl
  show checkOutput (.map es) = _
  rw [checkOutput, hrecord]
  dsimp only [Checked.andThen]
  rw [hconnection, htable, hmerge, htext "table_constraint" rfl, htext "table_option" rfl,
    htext "before_load" rfl, htext "after_load" rfl]
  cases (checkConnection (.map (a.connectionData password))).under (.field "connection") <;> rfl

/-- The credentials suffice with a password that is not empty. -/
theorem credentialsSuffice_iff (h : a.username ≠ []) {p : Option Text} :
    (a.connection p).credentialsSuffice = true ↔ ∃ t, p = some t ∧ t ≠ [] := by
  have husername : isPresent (some a.username) = true := by simpa [isPresent] using h
  have hsuffice : (a.connection p).credentialsSuffice = isPresent p := by
    show (isPresent (some a.username) && isPresent p) = isPresent p
    rw [husername, Bool.true_and]
  rw [hsuffice]
  cases p with
  | none => simp [isPresent]
  | some t => simp [isPresent]

/-- A password that is there is a text. -/
theorem checkOptional_text {t : Text} :
    checkOptional checkText password = .ok (some t) ↔ checkText password = .ok t := by
  have hchecked : password ≠ .null →
      checkOptional checkText password = some <$> checkText password := by
    intro hnull
    unfold checkOptional
    split
    · exact absurd rfl hnull
    · rfl
  by_cases hnull : password = .null
  · subst hnull
    constructor <;> intro hok <;> cases hok
  · rw [hchecked hnull]
    cases checkText password with
    | ok t' =>
      show Checked.ok (some t') = .ok (some t) ↔ _
      simp
    | faulty issues =>
      show Checked.faulty issues = .ok (some t) ↔ _
      simp

/-- **The settings of the file** have the text that is under the key of the password, if it is not
empty; with anything else there the file has no settings. -/
theorem checkOutput_iff (h : a.IsSound) {s : OutputSettings} :
    checkOutput (.map (a.data password)) = .ok s ↔
      ∃ t, t ≠ [] ∧ checkText password = .ok t ∧ s = a.settings t := by
  have hif (p : Option Text) (c : ConnectionSettings) :
      (if (a.connection p).credentialsSuffice then .ok (a.connection p)
        else .fault (.refused .credentialsMissing) : Checked ConnectionSettings) = .ok c ↔
      (∃ t, p = some t ∧ t ≠ []) ∧ a.connection p = c := by
    rw [← credentialsSuffice_iff h.username.ne_nil]
    by_cases hsuffice : (a.connection p).credentialsSuffice = true
    · simp [hsuffice]
    · simp [hsuffice, Checked.fault]
  rw [checkOutput_data h.named, checkConnection_data]
  simp only [Checked.andThen_eq_ok, Checked.under_eq_ok, hif]
  constructor
  · rintro ⟨c, ⟨p, hp, ⟨t, rfl, ht⟩, rfl⟩, hs⟩
    cases hs
    exact ⟨t, ht, checkOptional_text.mp hp, rfl⟩
  · rintro ⟨t, ht, hchecked, rfl⟩
    exact ⟨_, ⟨some t, checkOptional_text.mpr hchecked, ⟨t, rfl, ht⟩, rfl⟩, rfl⟩

end

/-! ### Reading the file -/

section

variable {a : Account} {v : Text}

/-- What the file has around the settings. -/
def frame : List String :=
  ["connection:\n  server: ", "\n  database: ", "\n  auth_mode: sql\n  username: ",
    "\n  password: ", "\ntable: ", "\n"]

/-- What holds of the frame and of what the file says holds of the file around the password. -/
theorem forall_mem_file {P : Symbol → Prop} (hframe : ∀ part ∈ frame, ∀ s ∈ (part : Text), P s)
    (hserver : ∀ s ∈ a.server, P s) (hdatabase : ∀ s ∈ a.database, P s)
    (husername : ∀ s ∈ a.username, P s) (htable : ∀ s ∈ a.table, P s) :
    (∀ s ∈ a.before, P s) ∧ ∀ s ∈ a.behind, P s := by
  simp only [frame, List.forall_mem_cons] at hframe
  obtain ⟨hfirst, hsecond, hthird, hfourth, hfifth, hlast, _⟩ := hframe
  simp only [before, behind, List.forall_mem_append]
  exact ⟨⟨⟨⟨⟨⟨⟨hfirst, hserver⟩, hsecond⟩, hdatabase⟩, hthird⟩, husername⟩, hfourth⟩,
    ⟨hfifth, htable⟩, hlast⟩

/-- The file with a password that is written as a plain scalar. -/
theorem parse_filled (h : a.IsSound) {password trailing : List Char} (hpassword : IsPlain password)
    (htrailing : IsTrailing trailing) (hv : v = .ofChars (password ++ trailing))
    (hchars : ∀ s ∈ v, s.isChar isDocumentChar = true) (number : Nat) :
    Document.parse number (a.before ++ v ++ a.behind) =
      (plainValue number 12 password).map fun p => some (.map (a.data p)) := by
  have hframe := forall_mem_file (P := fun s => s.isChar isDocumentChar = true) (by decide)
    h.server.chars h.database.chars h.username.chars h.table.chars
  have hall : ∀ s ∈ a.before ++ v ++ a.behind, s.isChar isDocumentChar = true := by
    intro s hs
    simp only [List.mem_append] at hs
    rcases hs with (hs | hs) | hs
    · exact hframe.1 s hs
    · exact hchars s hs
    · exact hframe.2 s hs
  have hwritten : (a.sheet password trailing).written = (a.before ++ v ++ a.behind).shown := by
    rw [written_sheet, hv]
  have hdocument : ∀ x ∈ (a.sheet password trailing).written, isDocumentChar x = true := by
    intro x hx
    rw [hwritten] at hx
    obtain ⟨s, hs, rfl⟩ := List.mem_map.mp hx
    cases s with
    | char c => exact hall _ hs
    | half n => cases hall _ hs
  rw [← Text.ofChars_shown hall, ← hwritten,
    Document.parse_written (isSound_sheet h hpassword htrailing) (hasKeys_sheet a _ _) hdocument,
    data_sheet h]
  cases plainValue number 12 password <;> rfl

/-- The file with a password that is stopped on its line. -/
theorem parse_stopped (h : a.IsSound) {text bad : List Char} {n : Nat} (htext : IsInline text)
    (hmark : text.getLast? = some ':' → atGap (List.replicate n ' ' ++ bad) = false)
    (hbad : IsStop bad) (hv : v.shown = text ++ (List.replicate n ' ' ++ bad))
    (hopens : OpensPlain v) (number : Nat) :
    Document.parse number (a.before ++ v ++ a.behind) = .error .malformed := by
  have hgap : atGap a.behind.shown = true := by
    rw [shown_behind]
    rfl
  have hname : IsKey "connection".toList := isKey "connection" (by decide)
  have hkey : IsKey "password".toList := isKey "password" (by decide)
  have hbegin : ∃ x rest, text ++ (List.replicate n ' ' ++ (bad ++ a.behind.shown)) = x :: rest ∧
      Scan.beginsPlain false x rest = true := by
    obtain ⟨_, x, rest, hfirst, hbegin⟩ := hopens
    refine ⟨x, rest ++ a.behind.shown, ?_, Scan.beginsPlain_append hbegin hgap⟩
    rw [← List.append_assoc (List.replicate n ' '), ← List.append_assoc, ← hv, hfirst]
    rfl
  have hmark' : text.getLast? = some ':' →
      atGap (List.replicate n ' ' ++ (bad ++ a.behind.shown)) = false := by
    intro hlast
    cases n with
    | zero =>
      cases hbad with
      | tab cs => cases hmark hlast
      | mark _ => rfl
    | succ n => cases hmark hlast
  have hshown := shown_filled a v
  rw [hv, List.append_assoc text, List.append_assoc (List.replicate n ' ')] at hshown
  obtain ⟨l, ls, hlines⟩ : ∃ l ls, a.lines = l :: ls := ⟨_, _, rfl⟩
  have hls := isSound_lines h
  rw [hlines] at hls hshown
  exact Document.parse_stopped hname hls hkey htext hbegin hmark' (hbad.append hgap) hshown number

end

end Account

end StagedLoad

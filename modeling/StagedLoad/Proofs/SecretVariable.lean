import StagedLoad.Proofs.AccountFile
import StagedLoad.Proofs.SingleFile

/-!
# A password from a variable

A file may take its password from a variable.  What the variable holds is put into the text of the
file before that is read as a document, so it is read like everything else that is written there:
behind a hash there is a comment, a number is a number, and a line more is an entry more.  A
password that is written as a plain scalar of one line, and is a text as such a scalar, reaches the
settings as it is.

* `Account.substitute_file` : the file as it is filled in.
* `Surroundings.loadSettings_of_readsAs`, `Surroundings.exists_readsAs` : the settings have what the
  variable is read as, and nothing else comes of it.
* `Surroundings.secret_reaches_settings` : which passwords reach the settings.
-/

namespace StagedLoad

open Yaml

/-! ## Filling in the password -/

namespace Account

variable {a : Account} {v : Text}

/-- The reference to the variable. -/
def reference : Reference := ⟨false, "SQL_PASSWORD", by decide, by decide⟩

/-- What the file has around the settings holds no reference. -/
theorem isQuiet_frame {part : String} (h : part ∈ frame) : IsQuiet part := by
  have hall : ∀ part ∈ frame, ∀ s ∈ (part : Text), s ≠ .char '$' := by decide
  exact isQuiet_of_no_dollar (hall part h)

/-- No reference begins in what the file says, nor in the frame behind it. -/
theorem isQuiet_until {t : Text} (ht : ∀ r : Reference, ¬ r.written <:+: t) {part : String}
    (h : part ∈ frame.tail) : IsQuiet (t ++ part) := by
  have hall : ∀ part ∈ frame.tail, (part : Text).head? = some (.char '\n') := by decide
  exact isQuiet_line ht (isQuiet_frame (List.mem_of_mem_tail h)) (hall part h)

/-- No reference begins before the password. -/
theorem isQuiet_before (h : a.IsSound) : IsQuiet a.before := by
  have hnone := h.noReference
  simp only [List.forall_mem_cons] at hnone
  obtain ⟨hserver, hdatabase, husername, _⟩ := hnone
  have hfirst : IsQuiet "connection:\n  server: " := isQuiet_frame (by decide)
  have hsecond : IsQuiet (a.server ++ "\n  database: ") := isQuiet_until hserver (by decide)
  have hthird : IsQuiet (a.database ++ "\n  auth_mode: sql\n  username: ") :=
    isQuiet_until hdatabase (by decide)
  have hlast : IsQuiet (a.username ++ "\n  password: ") :=
    isQuiet_until husername (by decide)
  have hall := hfirst.append (hsecond.append (hthird.append hlast))
  simpa only [before, List.append_assoc] using hall

/-- No reference begins behind the password. -/
theorem isQuiet_behind (h : a.IsSound) : IsQuiet a.behind := by
  have hnone := h.noReference
  simp only [List.forall_mem_cons] at hnone
  obtain ⟨_, _, _, htable, _⟩ := hnone
  have hfirst : IsQuiet "\ntable: " := isQuiet_frame (by decide)
  have hlast : IsQuiet (a.table ++ "\n") := isQuiet_until htable (by decide)
  rw [behind, List.append_assoc]
  exact hfirst.append hlast

/-- The password takes the place of the reference. -/
theorem substitute_file {vars : Variables} (h : a.IsSound)
    (hv : vars.lookup ("SQL_PASSWORD" : Text) = some v) :
    substitute vars (withLineFeeds a.file) = .ok (a.before ++ v ++ a.behind) := by
  let d : Template := ⟨a.before, [(reference, a.behind)]⟩
  have hwritten : reference.written = "$\x7bSQL_PASSWORD\x7d" := by decide
  have hfile : a.file = d.fill Reference.written := by
    simp only [file, d, Template.fill, List.flatMap_cons, List.flatMap_nil, List.append_nil,
      hwritten, List.append_assoc]
  have hreturn : .char '\r' ∉ a.file := by
    obtain ⟨hbefore, hbehind⟩ := forall_mem_file (P := (· ≠ .char '\r')) (by decide)
      h.server.ne_return h.database.ne_return h.username.ne_return h.table.ne_return
    intro hmem
    simp only [file, List.mem_append] at hmem
    rcases hmem with (hmem | hmem) | hmem
    · exact hbefore _ hmem rfl
    · exact absurd hmem (by decide)
    · exact hbehind _ hmem rfl
  have hpieces : piecesOf a.file = d.pieces := by
    rw [hfile]
    exact Template.piecesOf_fill (isQuiet_before h)
      (List.forall_mem_singleton.mpr (isQuiet_behind h))
  have hfilled : d.fill (fun _ => v) = a.before ++ v ++ a.behind := by
    simp [Template.fill, d]
  rw [withLineFeeds_eq hreturn, substitute, hpieces, ← hfilled]
  refine Template.fill_pieces fun r hr => ?_
  obtain rfl := List.mem_singleton.mp hr
  exact hv

end Account

/-! ## Loading the settings -/

namespace Surroundings

variable {w : Surroundings} {path : Text} {a : Account} {v : Text} {s : OutputSettings}

/-- A file that is read with something under the key of the password. -/
theorem loads_iff_of_data (hfile : w.HoldsText path a.file) (ha : a.IsSound)
    (hv : w.vars.lookup ("SQL_PASSWORD" : Text) = some v) {password : Value}
    (hparse : Document.parse 0 (a.before ++ v ++ a.behind) = .ok (some (.map (a.data password))))
    (j : Journal) :
    (w.loadSettings path j).1 = .ok s ↔ checkOutput (.map (a.data password)) = .ok s :=
  loads_iff_of_parse hfile (Account.substitute_file ha hv) hparse rfl rfl j

/-- The password is what the variable is read as. -/
theorem loadSettings_of_readsAs (hfile : w.HoldsText path a.file) (ha : a.IsSound)
    (hv : w.vars.lookup ("SQL_PASSWORD" : Text) = some v) {t : Text} (ht : ReadsAs v t)
    (j : Journal) : (w.loadSettings path j).1 = .ok (a.settings t) := by
  obtain ⟨trailing, htrailing, hshown⟩ := ht.behind
  have hwritten : v = .ofChars (t.shown ++ trailing) := by
    rw [← hshown, Text.ofChars_shown ht.chars]
  have hparse := Account.parse_filled ha ht.verbatim.plain htrailing hwritten ht.chars 0
  rw [ht.verbatim.plainValue_eq] at hparse
  exact (loads_iff_of_data hfile ha hv hparse j).mpr
    ((Account.checkOutput_iff ha).mpr ⟨t, ht.verbatim.ne_nil, rfl, rfl⟩)

/-- If the file is loaded, the variable is read as some password. -/
theorem exists_readsAs (hfile : w.HoldsText path a.file) (ha : a.IsSound)
    (hv : w.vars.lookup ("SQL_PASSWORD" : Text) = some v) (hopens : OpensPlain v) {j : Journal}
    (hs : (w.loadSettings path j).1 = .ok s) : ∃ t, ReadsAs v t ∧ s = a.settings t := by
  -- a text that is no document, or is stopped, is not loaded
  have hfault (f : DocumentFault) : Document.parse 0 (a.before ++ v ++ a.behind) ≠ .error f := by
    intro hparse
    exact loadSettings_of_parse_error hfile (Account.substitute_file ha hv) hparse j s hs
  have hchars : ∀ x ∈ v, x.isChar isDocumentChar = true := by
    intro x hx
    by_contra hforeign
    have hmem : x ∈ a.before ++ v ++ a.behind :=
      List.mem_append_left _ (List.mem_append_right _ hx)
    exact hfault _ (Document.parse_of_foreign 0 hmem (Bool.not_eq_true _ ▸ hforeign))
  obtain ⟨text, htext, hsplits⟩ := hopens.exists_inline
  generalize hshown : v.shown = shown at hsplits
  cases hsplits with
  | stops n hmark hbad =>
    exact absurd (Account.parse_stopped ha htext hmark hbad hshown hopens 0) (hfault _)
  | @ends trailing hmark htrailing =>
    have hplain : IsPlain text := hopens.isPlain hshown htext hmark htrailing
    have hwritten : v = .ofChars (text ++ trailing) := by
      rw [← hshown, Text.ofChars_shown hchars]
    have hparse := Account.parse_filled ha hplain htrailing hwritten hchars 0
    cases hvalue : plainValue 0 12 text with
    | error f =>
      rw [hvalue] at hparse
      exact absurd hparse (hfault _)
    | ok p =>
      rw [hvalue] at hparse
      have hchecked := (loads_iff_of_data hfile ha hv hparse j).mp hs
      obtain ⟨t, _, ht, rfl⟩ := (Account.checkOutput_iff ha).mp hchecked
      obtain ⟨hisText, rfl⟩ := eq_of_plainValue hvalue ht
      have hsame : Text.shown (.ofChars text) = text := Text.shown_ofChars text
      have hverbatim : IsVerbatim (.ofChars text) := by
        refine ⟨fun x hx => hchars x ?_, hsame.symm ▸ hplain, hisText⟩
        rw [hwritten, Text.ofChars_append]
        exact List.mem_append_left _ hx
      exact ⟨.ofChars text, ⟨hchars, hverbatim, trailing, htrailing, by rw [hshown, hsame]⟩, rfl⟩

/-- **A secret reaches the settings as it is, if it is written as it is.**  Of the secrets that stay
on one line and begin like a plain scalar no other one does; they may be cut short, but change
nothing else. -/
theorem secret_reaches_settings (hfile : w.HoldsText path a.file) (ha : a.IsSound)
    (hv : w.vars.lookup ("SQL_PASSWORD" : Text) = some v) (j : Journal) :
    (IsVerbatim v → (w.loadSettings path j).1 = .ok (a.settings v)) ∧
      (OpensPlain v → ∀ s, (w.loadSettings path j).1 = .ok s →
        (s.connection.password = some v → IsVerbatim v) ∧ ∃ t, t <+: v ∧ s = a.settings t) := by
  constructor
  · intro hverbatim
    exact loadSettings_of_readsAs hfile ha hv hverbatim.readsAs j
  · intro hopens s hs
    obtain ⟨t, ht, rfl⟩ := exists_readsAs hfile ha hv hopens hs
    obtain ⟨trailing, _, hshown⟩ := ht.behind
    refine ⟨?_, t, ⟨Text.ofChars trailing, ?_⟩, rfl⟩
    · intro hpassword
      obtain rfl : t = v := Option.some.inj hpassword
      exact ht.verbatim
    · rw [← Text.ofChars_shown ht.chars, hshown, Text.ofChars_append,
        Text.ofChars_shown ht.verbatim.chars]

/-- An account of plain words. -/
def sample : Account := ⟨"srv", "dw", "loader", "orders"⟩

/-- A tree with its file. -/
def sampleFiles : FileTree where
  root := ["etc"]
  files :=
    let file : String := "connection:\n  server: srv\n  database: dw\n  auth_mode: sql\n" ++
      "  username: loader\n  password: $\x7bSQL_PASSWORD\x7d\ntable: orders\n"
    [(["etc", "main"], utf8Bytes file.toList)]

/-- The sample is in the files under its name. -/
theorem holdsText_sample (hfiles : w.files = sampleFiles) : w.HoldsText "main" sample.file := by
  have hplace : sampleFiles.place? "main" = some [("etc" : Text), "main"] := by decide +kernel
  have hfile : ∃ cs, List.lookup [("etc" : Text), "main"] sampleFiles.files = some (utf8Bytes cs) ∧
      .ofChars cs = sample.file := ⟨_, rfl, by decide +kernel⟩
  obtain ⟨cs, hlookup, hcs⟩ := hfile
  rw [HoldsText, hfiles, ← hcs]
  exact ⟨by decide +kernel, utf8Bytes cs, FileTree.opened?_of_place hplace hlookup,
    utf8Text?_utf8Bytes cs⟩

theorem isSound_sample : sample.IsSound := by
  have hword : ∀ t ∈ (["srv", "dw", "loader", "orders"] : List Text),
      (∀ s ∈ t, s.isChar isDocumentChar = true) ∧ t.shown ≠ [] ∧
        t.shown.all isKeyChar = true ∧ t.shown.length ≤ 1024 ∧
          resolve (.ofChars t.shown) = .text ∧ .char '$' ∉ t := by decide
  have hverbatim : ∀ t ∈ (["srv", "dw", "loader", "orders"] : List Text), IsVerbatim t := by
    intro t ht
    obtain ⟨hchars, hne, hkey, hshort, htext, _⟩ := hword t ht
    exact isVerbatim_of_isKey hchars ⟨hne, List.all_eq_true.mp hkey, hshort, htext⟩
  simp only [List.forall_mem_cons] at hverbatim
  obtain ⟨hserver, hdatabase, husername, htable, _⟩ := hverbatim
  refine ⟨hserver, hdatabase, husername, htable, ?_, by decide⟩
  intro t ht r hr
  obtain ⟨_, _, _, _, _, hdollar⟩ := hword t ht
  exact hdollar (hr.subset List.mem_cons_self)

/-- A password with marks in it that end nothing there. -/
theorem marks_inside_reach_settings :
    let password : Text := "p#w:x $1"
    let w : Surroundings := { files := sampleFiles, vars := [("SQL_PASSWORD", password)] }
    w.HoldsText "main" sample.file ∧ sample.IsSound ∧ IsVerbatim password ∧ OpensPlain password ∧
      (w.loadSettings "main" {}).1 = .ok (sample.settings password) := by
  intro password w
  have hfile : w.HoldsText "main" sample.file := holdsText_sample rfl
  have hline : password.shown.all (fun x => x != '\t' && !isBreak x) = true := by decide
  have hverbatim : IsVerbatim password := {
    chars := by decide
    isText := by decide
    plain := {
      ne_nil := by decide
      oneLine := by simpa using hline
      begins := by decide
      ends := by decide
      goesOn := by decide
      plain := ⟨'p', "#w:x $1".toList, by decide, by decide⟩
      noMark := by decide } }
  have hvar : w.vars.lookup ("SQL_PASSWORD" : Text) = some password := by decide
  have hsecret := secret_reaches_settings hfile isSound_sample hvar {}
  exact ⟨hfile, isSound_sample, hverbatim, hverbatim.opensPlain, hsecret.1 hverbatim⟩

/-- A hash behind a space begins a comment, which is no part of the password. -/
theorem secret_cut_short_by_comment :
    ¬ ∀ (w : Surroundings) (path : Text) (a : Account) (v : Text) (j : Journal),
      w.HoldsText path a.file → a.IsSound → v ≠ [] →
      w.vars.lookup ("SQL_PASSWORD" : Text) = some v →
      ∃ s, (w.loadSettings path j).1 = .ok s ∧ s.connection.password = some v := by
  intro hall
  let w : Surroundings := { files := sampleFiles, vars := [("SQL_PASSWORD", "p #w")] }
  have hfile : w.HoldsText "main" sample.file := holdsText_sample rfl
  have hvar : w.vars.lookup ("SQL_PASSWORD" : Text) = some "p #w" := by decide
  have hread : ReadsAs "p #w" "p" := by
    have hkey : IsKey (Text.shown "p") :=
      ⟨by decide, List.all_eq_true.mp (by decide), by decide,
        by decide⟩
    have hcomment : IsTrailing " #w".toList := .comment 0 (List.forall_mem_singleton.mpr rfl)
    exact ⟨by decide, isVerbatim_of_isKey (by decide) hkey, " #w".toList, hcomment,
      by decide⟩
  obtain ⟨s, hs, hpassword⟩ := hall w "main" sample "p #w" {} hfile isSound_sample
    (by decide) hvar
  rw [loadSettings_of_readsAs hfile isSound_sample hvar hread] at hs
  cases hs
  exact absurd hpassword (by decide)

end Surroundings

end StagedLoad

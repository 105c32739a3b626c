import StagedLoad.Proofs.TargetTable

/-!
# Checked settings are in normal form

A check accepts data of many shapes and makes one value of them: numbers come as texts, words as
bytes, tables with blanks around them, and whole fields are left out.  What it makes is in normal
form, and data in normal form are made into themselves.

* `Normalizes` : what a check makes is normal, and what is normal is made again from its own data.
* `OutputSettings.IsNormal` : the normal form of the settings of a load.
* `checkOutput_dump_iff` : the settings that are made again from their own data are the normal ones.
* `checked_settings_normal` : accepted settings are normal, and are accepted again as they are.
-/

namespace StagedLoad

open Checked

variable {α : Type} {check : Value → Checked α} {write : α → Value} {P : α → Prop} {a : α}

/-- **What the check makes is normal, and what is normal is made again** from the data that it is
written as. -/
structure Normalizes (check : Value → Checked α) (write : α → Value) (P : α → Prop) : Prop where
  normal : ∀ {v a}, check v = .ok a → P a
  again : ∀ {a}, P a → check (write a) = .ok a

/-! ## Single fields -/

namespace Normalizes

/-- The normal form may be said in another way. -/
theorem congr (h : Normalizes check write P) {Q : α → Prop} (hform : ∀ a, P a ↔ Q a) :
    Normalizes check write Q :=
  ⟨fun hv => (hform _).mp (h.normal hv), fun ha => h.again ((hform _).mpr ha)⟩

theorem text : Normalizes checkText .text fun _ => True :=
  ⟨fun _ => trivial, fun _ => rfl⟩

theorem integer : Normalizes checkInteger .int fun _ => True :=
  ⟨fun _ => trivial, fun _ => rfl⟩

/-- A word is made again if no two members of the set share it. -/
theorem word [Word α] (hread : ∀ a : α, Word.find? (Word.word a) = some a) :
    Normalizes (checkWord α) (fun a => .text (Word.word a)) fun _ => True := by
  refine ⟨fun _ => trivial, fun {a} _ => ?_⟩
  have hchars : (Text.ofString (Word.word a)).chars? = some (Word.word a).toList :=
    Text.chars?_ofChars _
  simp only [checkWord, checkText, hchars, hread, Option.isNone_some, Bool.false_eq_true, if_false]

/-- A list of texts is made again, member by member. -/
theorem texts : Normalizes checkTexts .ofTexts fun _ => True := by
  refine ⟨fun _ => trivial, fun {ts} _ => ?_⟩
  have hmembers (i : Nat) : eachFrom i checkText (ts.map .text) = .ok ts := by
    induction ts generalizing i with
    | nil => rfl
    | cons t ts ih =>
      have hfirst : (checkText (.text t)).under (.index i) = .ok t := rfl
      rw [List.map_cons, eachFrom, hfirst, ih]
      rfl
  exact hmembers 0

/-- Nothing is made again from nothing, and a value from data that are not nothing. -/
theorem orNothing (h : Normalizes check write P) (hwrite : ∀ a, write a ≠ .null) :
    Normalizes (checkOptional check) (fun o => (o.map write).getD .null)
      fun o => ∀ a ∈ o, P a := by
  have hthere {v : Value} (hv : v ≠ .null) : checkOptional check v = some <$> check v := by
    unfold checkOptional
    split
    · exact absurd rfl hv
    · rfl
  constructor
  · intro v o ho
    by_cases hv : v = .null
    · subst hv
      cases ho
      exact nofun
    · rw [hthere hv, map_eq_ok] at ho
      obtain ⟨a, ha, rfl⟩ := ho
      rintro _ ⟨⟩
      exact h.normal ha
  · intro o ho
    cases o with
    | none => rfl
    | some a =>
      show checkOptional check (write a) = .ok (some a)
      rw [hthere (hwrite a), h.again (ho a rfl)]
      rfl

/-- A further check that lets values pass as they are makes the form narrower. -/
theorem narrowed (h : Normalizes check write P) {refuses : α → Bool} {r : Reason} :
    Normalizes (fun v => (check v).andThen fun a => if refuses a then fault r else ok a) write
      fun a => P a ∧ refuses a = false := by
  constructor
  · intro v a hv
    obtain ⟨b, hb, hpassed⟩ := andThen_eq_ok.mp hv
    cases hrefused : refuses b with
    | true =>
      rw [hrefused] at hpassed
      cases hpassed
    | false =>
      rw [hrefused] at hpassed
      cases hpassed
      exact ⟨h.normal hb, hrefused⟩
  · rintro a ⟨ha, hpasses⟩
    refine andThen_eq_ok.mpr ⟨a, h.again ha, ?_⟩
    rw [hpasses]
    rfl

end Normalizes

/-! ## Stripped texts -/

/-- What is left of a list begins with no member of the class, and ends with none. -/
theorem ends_stripList {β : Type} (p : β → Bool) (xs : List β) :
    (∀ x ∈ (stripList p xs).head?, p x = false) ∧
      ∀ x ∈ (stripList p xs).getLast?, p x = false := by
  have hfirst (ys : List β) : ∀ x ∈ (ys.dropWhile p).head?, p x = false := by
    intro x hx
    have hnot := List.head?_dropWhile_not p ys
    rw [Option.mem_def.mp hx] at hnot
    exact hnot
  constructor
  · intro x hx
    have hprefix : stripList p xs <+: xs.dropWhile p := List.rdropWhile_prefix p _
    obtain ⟨rest, hrest⟩ := hprefix
    refine hfirst xs x ?_
    rw [← hrest, List.head?_append_of_ne_nil]
    · exact hx
    · exact List.ne_nil_of_mem (List.mem_of_mem_head? hx)
  · intro x hx
    rw [stripList, List.getLast?_reverse] at hx
    exact hfirst _ x hx

/-- A list that neither begins nor ends with a member of the class stays as it is. -/
theorem stripList_of_ends {β : Type} {p : β → Bool} {xs : List β}
    (hfirst : ∀ x ∈ xs.head?, p x = false) (hlast : ∀ x ∈ xs.getLast?, p x = false) :
    stripList p xs = xs := by
  have hkeep {ys : List β} (hys : ∀ y ∈ ys.head?, p y = false) : ys.dropWhile p = ys := by
    cases ys with
    | nil => rfl
    | cons y ys => exact List.dropWhile_cons_of_neg (by simp [hys y rfl])
  rw [stripList, hkeep hfirst, hkeep, List.reverse_reverse]
  rwa [List.head?_reverse]

/-- The text is not empty, and there is no blank at either end of it. -/
structure IsStripped (t : Text) : Prop where
  begins : ∃ x, t.head? = some x ∧ x.isChar isBlank = false
  ends : ∃ x, t.getLast? = some x ∧ x.isChar isBlank = false

/-- There is nothing to strip from a stripped text. -/
theorem IsStripped.strip_eq {t : Text} (h : IsStripped t) : strip t = t := by
  obtain ⟨x, hx, hfirst⟩ := h.begins
  obtain ⟨y, hy, hlast⟩ := h.ends
  refine stripList_of_ends ?_ ?_
  · rintro _ hz
    cases hx.symm.trans hz
    exact hfirst
  · rintro _ hz
    cases hy.symm.trans hz
    exact hlast

/-- The name of a table is stripped. -/
theorem Normalizes.table : Normalizes checkTable .text IsStripped := by
  constructor
  · intro v t hv
    obtain ⟨y, hy, hlast⟩ := checkTable_ends hv
    refine ⟨?_, y, hy, hlast⟩
    obtain ⟨raw, _, hpassed⟩ := andThen_eq_ok.mp hv
    split at hpassed
    · cases hpassed
    · cases hpassed
      have hne : strip raw ≠ [] := List.ne_nil_of_mem (List.mem_of_getLast? hy)
      have hhead := List.head?_eq_some_head hne
      exact ⟨_, hhead, (ends_stripList _ raw).1 _ hhead⟩
  · intro t ht
    obtain ⟨y, hy, hlast⟩ := ht.ends
    have hblank : isBlankText t = false :=
      List.all_eq_false.mpr ⟨y, List.mem_of_getLast? hy, by simp [hlast]⟩
    refine andThen_eq_ok.mpr ⟨t, rfl, ?_⟩
    rw [hblank, ht.strip_eq]
    rfl

/-! ## Records -/

/-- The normal form of the settings of a connection: a login by password has both its parts, and
neither is empty. -/
def ConnectionSettings.IsNormal (c : ConnectionSettings) : Prop :=
  c.authMode = .sql →
    (∃ u, c.username = some u ∧ u ≠ []) ∧ ∃ p, c.password = some p ∧ p ≠ []

/-- The normal form of the settings of a merge: there are keys, and a rule is not empty. -/
structure MergeSettings.IsNormal (m : MergeSettings) : Prop where
  keys : m.keys ≠ []
  rule : m.rule ≠ some []

/-- The normal form of the settings of a load. -/
structure OutputSettings.IsNormal (s : OutputSettings) : Prop where
  connection : s.connection.IsNormal
  table : IsStripped s.table
  merge : ∀ m ∈ s.merge, m.IsNormal

/-- A text is present if it is there and not empty. -/
theorem isPresent_iff {t : Option Text} : isPresent t = true ↔ ∃ u, t = some u ∧ u ≠ [] := by
  cases t <;> simp [isPresent]

/-- Credentials suffice exactly in normal form. -/
theorem ConnectionSettings.credentialsSuffice_iff_isNormal {c : ConnectionSettings} :
    c.credentialsSuffice = true ↔ c.IsNormal := by
  unfold credentialsSuffice IsNormal
  rw [← isPresent_iff, ← isPresent_iff]
  cases c.authMode <;> simp

/-- A field with a default that is there passes its check. -/
theorem optional_eq_ok {es : Entries} {name : String} {default : α} {v : Value}
    (hv : es.text? name = some v) (h : check v = .ok a) :
    optional es name default check = .ok a := by
  rw [StagedLoad.optional, hv]
  exact under_eq_ok.mpr h

/-- What a field with a default is made of is normal, if the default is. -/
theorem Normalizes.of_optional (h : Normalizes check write P) {es : Entries} {name : String}
    {default : α} (hdefault : P default) (ha : optional es name default check = .ok a) : P a := by
  unfold StagedLoad.optional at ha
  split at ha
  · exact h.normal (under_eq_ok.mp ha)
  · cases ha
    exact hdefault

namespace Normalizes

/-- A text that may be missing is written as itself or as nothing. -/
theorem optionalText : Normalizes (checkOptional checkText) Value.ofText? fun _ => True :=
  (text.orNothing fun _ => nofun).congr fun _ => by simp

/-- A list of keys is normal unless it is empty. -/
theorem keys : Normalizes checkKeys .ofTexts fun keys => keys ≠ [] :=
  texts.narrowed.congr fun _ => by simp

/-- A rule is normal unless it is an empty list. -/
theorem rule : Normalizes checkRule Value.ofTexts? fun rule => rule ≠ some [] :=
  (texts.orNothing fun _ => nofun).narrowed.congr fun _ => by simp

/-- **The settings of a merge**, from their fields. -/
theorem merge : Normalizes checkMerge MergeSettings.dump MergeSettings.IsNormal := by
  constructor
  · intro v m hv
    obtain ⟨es, _, hkeys, hrule, _⟩ := checkMerge_eq_ok.mp hv
    obtain ⟨_, _, hchecked⟩ := required_eq_ok.mp hkeys
    have hnone : (none : Option (List Text)) ≠ some [] := nofun
    exact ⟨keys.normal hchecked, rule.of_optional hnone hrule⟩
  · intro m hm
    refine checkMerge_eq_ok.mpr ⟨_, rfl, required_eq_ok.mpr ⟨_, rfl, keys.again hm.keys⟩,
      optional_eq_ok rfl (rule.again hm.rule), optional_eq_ok rfl ((word ?_).again trivial)⟩
    rintro ⟨⟩ <;> rfl

/-- **The settings of a connection**, from their fields and the check of its credentials. -/
theorem connection :
    Normalizes checkConnection ConnectionSettings.dump ConnectionSettings.IsNormal := by
  constructor
  · intro v c hv
    obtain ⟨_, _, hsuffice, _⟩ := checkConnection_eq_ok.mp hv
    exact ConnectionSettings.credentialsSuffice_iff_isNormal.mp hsuffice
  · intro c hc
    have hsuffice := ConnectionSettings.credentialsSuffice_iff_isNormal.mpr hc
    have htext (t : Option Text) : checkOptional checkText (.ofText? t) = .ok t :=
      optionalText.again trivial
    refine checkConnection_eq_ok.mpr ⟨_, rfl, hsuffice,
      required_eq_ok.mpr ⟨_, rfl, rfl⟩, required_eq_ok.mpr ⟨_, rfl, rfl⟩, optional_eq_ok rfl rfl,
      optional_eq_ok rfl rfl, optional_eq_ok rfl rfl, optional_eq_ok rfl ((word ?_).again trivial),
      optional_eq_ok rfl (htext _), optional_eq_ok rfl (htext _),
      optional_eq_ok rfl ((word ?_).again trivial), optional_eq_ok rfl rfl⟩
    · rintro ⟨⟩ <;> rfl
    · rintro ⟨⟩ <;> rfl

/-- **The settings of a load**, from those of the connection and of the merge. -/
theorem output : Normalizes checkOutput OutputSettings.dump OutputSettings.IsNormal := by
  have hwritten (m : MergeSettings) : m.dump ≠ .null := fun hnull => by cases hnull
  have hmerge := merge.orNothing hwritten
  constructor
  · intro v s hv
    obtain ⟨es, _, hconnection, htable, hmerged, _⟩ := checkOutput_eq_ok.mp hv
    obtain ⟨_, _, hconnected⟩ := required_eq_ok.mp hconnection
    obtain ⟨_, _, hnamed⟩ := required_eq_ok.mp htable
    have hnone : ∀ m ∈ (none : Option MergeSettings), m.IsNormal := fun _ hm => by cases hm
    exact ⟨connection.normal hconnected, table.normal hnamed, hmerge.of_optional hnone hmerged⟩
  · intro s hs
    have htext (t : Option Text) : checkOptional checkText (.ofText? t) = .ok t :=
      optionalText.again trivial
    exact checkOutput_eq_ok.mpr ⟨_, rfl,
      required_eq_ok.mpr ⟨_, rfl, connection.again hs.connection⟩,
      required_eq_ok.mpr ⟨_, rfl, table.again hs.table⟩,
      optional_eq_ok rfl (hmerge.again hs.merge), optional_eq_ok rfl (htext _),
      optional_eq_ok rfl (htext _), optional_eq_ok rfl (htext _), optional_eq_ok rfl (htext _)⟩

end Normalizes

/-- **The settings that are made again from their own data** are the normal ones. -/
theorem checkOutput_dump_iff {s : OutputSettings} : checkOutput s.dump = .ok s ↔ s.IsNormal :=
  ⟨Normalizes.output.normal, Normalizes.output.again⟩

/-- **Accepted settings are normal, and are accepted again as they are.**  A login by password has
a user name and a password, neither of them empty; there is no blank at the ends of the table; a
merge has keys, and a rule that is not empty if it has one.  Written as data and checked again they
are the same settings, with the same target table and the same keys and rule. -/
theorem checked_settings_normal {v : Value} {s : OutputSettings} (h : checkOutput v = .ok s) :
    s.IsNormal ∧ ∃ again, checkOutput s.dump = .ok again ∧ again = s ∧
      again.target = s.target ∧
      again.merge.map MergeSettings.spec = s.merge.map MergeSettings.spec := by
  have hnormal : s.IsNormal := Normalizes.output.normal h
  exact ⟨hnormal, s, checkOutput_dump_iff.mpr hnormal, rfl, rfl, rfl⟩

/-- Data that are not normal: numbers as texts and with fractions, a word as bytes, a table with
blanks around it, and a key that is no field. -/
theorem loose_data_normalized :
    let connection : Value := .map [
      (.text "server", .text "srv"), (.text "database", .bytes [0x64, 0x77]),
      (.text "port", .text " +01_433.00 "), (.text "timeout", .bool true),
      (.text "auth_mode", .bytes [0x73, 0x71, 0x6C]),
      (.text "username", .text "u"), (.text "password", .text " "), (.text "extra", .null)]
    let v : Value := .map [
      (.text "table", .text "\n dbo.orders "), (.text "connection", connection),
      (.text "merge", .map [
        (.text "keys", .list [.text "id"]), (.text "strategy", .text "update_insert")])]
    let s : OutputSettings := {
      connection := {
        server := "srv", database := "dw", port := 1433, timeout := 1, authMode := .sql
        username := some "u", password := some " " }
      table := "dbo.orders"
      merge := some { keys := ["id"], strategy := .updateInsert } }
    checkOutput v = .ok s ∧ s.IsNormal ∧ ∃ again, checkOutput s.dump = .ok again ∧ again = s ∧
      again.target = s.target ∧
      again.merge.map MergeSettings.spec = s.merge.map MergeSettings.spec := by
  intro connection v s
  have hchecked : checkOutput v = .ok s := rfl
  exact ⟨hchecked, checked_settings_normal hchecked⟩

end StagedLoad

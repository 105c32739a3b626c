import Mathlib.Data.List.TakeWhile
import StagedLoad.Database.Script
import StagedLoad.Endpoint
import StagedLoad.Proofs.Contract
import StagedLoad.Text.Bytes

/-!
# The address of an engine

The connection string is the one parameter of an address, in percent-encoded form.  Nothing of that
form can be taken for a mark of the address, and the string is read back from it whatever is in the
settings, as long as these are texts of characters.

* `percentDecode?` : the text that an encoded one stands for.
* `percentDecode?_encode` : every text of characters is read back.
* `parameters?` : the parameters of an address, by their names.
* `engine_address_carries` : the address that an engine is made with carries the connection string.
-/

namespace StagedLoad

/-! ## Reading encoded texts -/

/-- The bytes that an encoded text stands for: a plus sign is a space, a percent sign begins a byte
in two hexadecimal digits, and any other character stands for its own bytes. -/
def percentBytes? : List Char → Option (List UInt8)
  | [] => some []
  | '%' :: high :: low :: cs => do
    let h ← hexDigit? high
    let l ← hexDigit? low
    let bs ← percentBytes? cs
    return UInt8.ofNat (16 * h + l) :: bs
  | '%' :: _ => none
  | '+' :: cs => (percentBytes? cs).map (0x20 :: ·)
  | c :: cs => (percentBytes? cs).map (String.utf8EncodeChar c ++ ·)

/-- The text that an encoded text stands for. -/
def percentDecode? (cs : List Char) : Option Text := (percentBytes? cs).bind utf8Text?

/-- A capital hexadecimal digit is read back. -/
theorem hexDigit?_upperHexDigit {n : Nat} (hn : n < 16) : hexDigit? (upperHexDigit n) = some n := by
  have hall : ∀ k : Fin 16, hexDigit? (upperHexDigit k) = some k.val := by decide
  exact hall ⟨n, hn⟩

/-- A byte in its percent form is read back. -/
theorem percentBytes?_percentByte (b : UInt8) (cs : List Char) :
    percentBytes? (percentByte b ++ cs) = (percentBytes? cs).map (b :: ·) := by
  have hb : b.toNat < 256 := b.toNat_lt
  have hbyte : UInt8.ofNat (16 * (b.toNat / 16) + b.toNat % 16) = b := by
    rw [Nat.div_add_mod]
    exact UInt8.ofNat_toNat
  show percentBytes? ('%' :: upperHexDigit _ :: upperHexDigit _ :: cs) = _
  rw [percentBytes?, hexDigit?_upperHexDigit (by omega), hexDigit?_upperHexDigit (by omega)]
  simp only [Option.bind_eq_bind, Option.bind_some, hbyte]
  cases percentBytes? cs <;> rfl

/-- Bytes in their percent form are read back one by one. -/
theorem percentBytes?_bytes (bs : List UInt8) (cs : List Char) :
    percentBytes? (bs.flatMap percentByte ++ cs) = (percentBytes? cs).map (bs ++ ·) := by
  induction bs with
  | nil => simp
  | cons b bs ih =>
    rw [List.flatMap_cons, List.append_assoc, percentBytes?_percentByte, ih, Option.map_map]
    rfl

/-- A character that stands for itself begins nothing. -/
theorem percentBytes?_unreserved {c : Char} (hc : isUnreserved c = true) (cs : List Char) :
    percentBytes? (c :: cs) = (percentBytes? cs).map (String.utf8EncodeChar c ++ ·) := by
  rw [percentBytes?]
  · rintro _ _ _ rfl
    cases hc
  · rintro rfl
    cases hc
  · rintro rfl
    cases hc

/-- **One character is read back** as its bytes, whatever follows. -/
theorem percentBytes?_percentChar (c : Char) (cs : List Char) :
    percentBytes? (percentChar c ++ cs) =
      (percentBytes? cs).map (String.utf8EncodeChar c ++ ·) := by
  unfold percentChar
  split
  · next hc => exact percentBytes?_unreserved hc cs
  · split
    · next hc =>
      subst hc
      rfl
    · exact percentBytes?_bytes _ cs

/-- **The encoded form of characters is read as their bytes.** -/
theorem percentBytes?_encode (cs : List Char) :
    percentBytes? (cs.flatMap percentChar) = some (utf8Bytes cs) := by
  induction cs with
  | nil => rfl
  | cons c cs ih =>
    rw [List.flatMap_cons, percentBytes?_percentChar, ih]
    rfl

/-- A text that has characters only is the text of these. -/
theorem Text.eq_ofChars_of_chars? {t : Text} {cs : List Char} (h : t.chars? = some cs) :
    t = .ofChars cs := by
  induction t generalizing cs with
  | nil =>
    cases h
    rfl
  | cons x t ih =>
    simp only [Text.chars?, List.mapM_cons, Option.bind_eq_bind, Option.bind_eq_some_iff] at h
    obtain ⟨c, hc, cs', hcs, heq⟩ := h
    cases heq
    cases x with
    | char d =>
      cases hc
      rw [ih hcs]
      rfl
    | half n => cases hc

/-- **Every text of characters is read back.** -/
theorem percentDecode?_encode (cs : List Char) :
    percentDecode? (cs.flatMap percentChar) = some (.ofChars cs) := by
  rw [percentDecode?, percentBytes?_encode, Option.bind_some, utf8Text?_utf8Bytes]

/-- **What is encoded is read back.** -/
theorem percentDecode?_of_encode {t : Text} {cs : List Char} (h : percentEncode? t = some cs) :
    percentDecode? cs = some t := by
  obtain ⟨chars, hchars, rfl⟩ := Option.map_eq_some_iff.mp h
  rw [percentDecode?_encode, Text.eq_ofChars_of_chars? hchars]

/-! ## What an encoded text is made of -/

/-- The letters and digits of ASCII, and the marks that an encoded text may hold. -/
def IsEncodedChar (c : Char) : Prop := c.isAlphanum = true ∨ c ∈ ['_', '.', '-', '~', '+', '%']

theorem isEncodedChar_upperHexDigit {n : Nat} (hn : n < 16) : IsEncodedChar (upperHexDigit n) := by
  have hall : ∀ k : Fin 16, (upperHexDigit k).isAlphanum = true := by decide
  exact .inl (hall ⟨n, hn⟩)

theorem isEncodedChar_of_mem_percentByte {b : UInt8} {c : Char} (hc : c ∈ percentByte b) :
    IsEncodedChar c := by
  have hb : b.toNat < 256 := b.toNat_lt
  simp only [percentByte, List.mem_cons, List.not_mem_nil, or_false] at hc
  rcases hc with rfl | rfl | rfl
  · exact .inr (by decide)
  · exact isEncodedChar_upperHexDigit (by omega)
  · exact isEncodedChar_upperHexDigit (by omega)

/-- The encoded form of a character is made of safe characters. -/
theorem isEncodedChar_of_mem_percentChar {c d : Char} (hd : d ∈ percentChar c) :
    IsEncodedChar d := by
  unfold percentChar at hd
  split at hd
  · next hc =>
    obtain rfl := List.mem_singleton.mp hd
    simp only [isUnreserved, Bool.or_eq_true, beq_iff_eq] at hc
    rcases hc with (((hletter | rfl) | rfl) | rfl) | rfl
    · exact .inl hletter
    all_goals exact .inr (by decide)
  · split at hd
    · obtain rfl := List.mem_singleton.mp hd
      exact .inr (by decide)
    · obtain ⟨b, _, hmem⟩ := List.mem_flatMap.mp hd
      exact isEncodedChar_of_mem_percentByte hmem

/-- An encoded text holds no mark that divides an address. -/
theorem IsEncodedChar.ne {c mark : Char} (hc : IsEncodedChar c)
    (hmark : mark ∈ ['?', '&', '=', '#']) : c ≠ mark := by
  rintro rfl
  rcases hc with hc | hc
  · simp only [List.mem_cons, List.not_mem_nil, or_false] at hmark
    rcases hmark with rfl | rfl | rfl | rfl <;> cases hc
  · simp only [List.mem_cons, List.not_mem_nil, or_false] at hc
    rcases hc with rfl | rfl | rfl | rfl | rfl | rfl <;> revert hmark <;> decide

/-! ## Addresses -/

/-- The parameters of an address, by their names.  They stand behind the first question mark, up to
a number sign; ampersands lie between them, and the first equals sign is behind the name. -/
def parameters? (address : List Char) : Option (List (Text × Text)) :=
  let query := ((address.dropWhile (· != '?')).drop 1).takeWhile (· != '#')
  (partsOf '&' query).mapM fun part => do
    let name ← percentDecode? (part.takeWhile (· != '='))
    let value ← percentDecode? ((part.dropWhile (· != '=')).drop 1)
    return (name, value)

/-- What the address of an engine begins with, up to the equals sign of its parameter. -/
def addressFront : List Char := "mssql+pyodbc:///?odbc_connect=".toList

/-- Nothing in an encoded value ends the parameter or begins another one. -/
theorem parameters?_of_encoded {cs : List Char} {value : Text}
    (hcs : ∀ c ∈ cs, IsEncodedChar c) (hvalue : percentDecode? cs = some value) :
    parameters? (addressFront ++ cs) = some [(.ofString "odbc_connect", value)] := by
  have hquery : ((addressFront ++ cs).dropWhile (· != '?')).drop 1 =
      "odbc_connect".toList ++ '=' :: cs := rfl
  have hplain : "odbc_connect".toList.all (· != '#') = true := by decide
  have hwhole : ("odbc_connect".toList ++ '=' :: cs).takeWhile (· != '#') =
      "odbc_connect".toList ++ '=' :: cs := by
    rw [List.takeWhile_eq_self_iff]
    intro c hc
    rw [List.mem_append, List.mem_cons] at hc
    rcases hc with hc | rfl | hc
    · exact List.all_eq_true.mp hplain c hc
    · decide
    · exact bne_iff_ne.mpr ((hcs c hc).ne (by decide))
  have hpart : '&' ∉ "odbc_connect".toList ++ '=' :: cs := by
    rw [List.mem_append, List.mem_cons, not_or, not_or]
    exact ⟨by decide, by decide, fun hc => (hcs _ hc).ne (by decide) rfl⟩
  have hname : percentDecode? "odbc_connect".toList = some (.ofString "odbc_connect") := by
    decide +kernel
  simp only [parameters?, hquery, hwhole, partsOf_of_notMem hpart]
  have hfront : ("odbc_connect".toList ++ '=' :: cs).takeWhile (· != '=') =
      "odbc_connect".toList := rfl
  have hback : (("odbc_connect".toList ++ '=' :: cs).dropWhile (· != '=')).drop 1 = cs := rfl
  simp only [List.mapM_cons, List.mapM_nil, hfront, hback, hname, hvalue, Option.bind_eq_bind,
    Option.bind_some, Option.pure_def]

/-! ## Settings without halves -/

/-- The text is one of characters only. -/
def Text.IsUnicode (t : Text) : Prop := ∃ cs, t = .ofChars cs

/-- A string has no halves. -/
theorem Text.isUnicode_ofString (s : String) : (ofString s).IsUnicode := ⟨s.toList, rfl⟩

theorem Text.IsUnicode.append {t t' : Text} (ht : t.IsUnicode) (ht' : t'.IsUnicode) :
    (t ++ t').IsUnicode := by
  obtain ⟨cs, rfl⟩ := ht
  obtain ⟨cs', rfl⟩ := ht'
  exact ⟨cs ++ cs', (ofChars_append cs cs').symm⟩

/-- No text that the connection string is made of holds a half of a surrogate pair. -/
structure ConnectionSettings.IsUnicode (c : ConnectionSettings) : Prop where
  server : c.server.IsUnicode
  database : c.database.IsUnicode
  driver : c.driver.IsUnicode
  username : ∀ u ∈ c.username, u.IsUnicode
  password : ∀ p ∈ c.password, p.IsUnicode

/-- A missing text is shown by a word. -/
theorem isUnicode_display_ofText? {t : Option Text} (ht : ∀ u ∈ t, u.IsUnicode) :
    (Value.ofText? t).display.IsUnicode := by
  cases t with
  | none => exact Text.isUnicode_ofString "None"
  | some u => exact ht u rfl

/-- Settings without halves have a connection string without any. -/
theorem ConnectionSettings.IsUnicode.connectionString {c : ConnectionSettings} (hc : c.IsUnicode) :
    (Endpoint.ofSettings c).connectionString.IsUnicode := by
  have hstring := Text.isUnicode_ofString
  have hport : (Value.int c.port).display.IsUnicode := hstring (toString c.port)
  have htimeout : (Value.int c.timeout).display.IsUnicode := hstring (toString c.timeout)
  have husername := isUnicode_display_ofText? hc.username
  have hpassword := isUnicode_display_ofText? hc.password
  unfold Endpoint.connectionString
  refine .append ?_ ?_
  · exact ((((((((((((hstring _).append hc.driver).append (hstring _)).append hc.server).append
      (hstring _)).append hport).append (hstring _)).append hc.database).append
      (hstring _)).append (hstring _)).append htimeout).append (hstring _))
  · cases hmode : (Endpoint.ofSettings c).authMode with
    | sql =>
      exact ((((hstring _).append husername).append (hstring _)).append hpassword).append
        (hstring _)
    | managedIdentity => exact hstring _

/-! ## Engines -/

section

variable {σ : Type} [Driver σ]

/-- A call whose fault is turned into another failure. -/
theorem meets_mapFault_perform (c : Call) (failure : Fault → Failure) :
    (Session.mapFault (perform c) failure : Session σ Unit).Meets fun s es _ _ =>
      ∃ fault, es = [⟨c, s.autoCommit, fault⟩] := by
  intro s
  simp only [Session.after, Session.mapFault, perform]
  rcases Driver.attempt c s.driver with ⟨_ | f, d⟩
  · exact ⟨_, rfl, none, rfl⟩
  · exact ⟨_, rfl, some f, rfl⟩

/-- An endpoint that lacks nothing makes its engine with its address, and asks for nothing else. -/
theorem Endpoint.issued_getEngine {e : Endpoint} {address : Text} (hlack : e.lack? = none)
    (haddress : e.url? = some address) {s : Link σ} (hs : s.engine = none) :
    ∃ fault, e.getEngine.issued s = [⟨.createEngine address {}, s.autoCommit, fault⟩] := by
  -- What is done with an engine once it is made calls nothing.
  let keep : Session σ Nat := do
    let n ← Session.ask fun s => s.engines
    Session.update fun s => { s with engine := some n, engines := n + 1 }
    say .debug "Created SQLAlchemy engine"
      [("server", .text e.server), ("database", .text e.database)]
    return n
  let make : Session σ Nat := do
    Session.mapFault (perform (.createEngine address {}))
      (e.unreachable "Failed to create engine: ")
    keep
  have hvalidate : e.validate = (pure () : Session σ Unit) := by rw [validate, hlack]
  have hgiven : e.address = (pure address : Session σ Text) := by rw [Endpoint.address, haddress]
  have hmake : e.getEngine s = make s := by
    have hnone : (Session.ask fun s : Link σ => s.engine).outcome s = .ok none :=
      congrArg Except.ok hs
    rw [getEngine, Session.bind_of_ok hnone, hvalidate, hgiven]
    rfl
  have hkeep : keep.Silent := ⟨fun _ => rfl, fun _ => rfl, fun _ => ⟨_, rfl⟩⟩
  have hmeets : make.Meets fun s es _ _ =>
      ∃ fault, es = [⟨.createEngine address {}, s.autoCommit, fault⟩] := by
    have hquiet : keep.Meets fun _ es _ _ => es = [] := .of_silent hkeep fun _ _ => rfl
    refine Session.Meets.bind (meets_mapFault_perform _ _) (fun _ => hquiet) (fun h => h) ?_
    rintro s es a mid es' r s' ⟨fault, rfl⟩ rfl
    exact ⟨fault, List.append_nil _⟩
  have hissued : e.getEngine.issued s = make.issued s := by
    rw [Session.issued, Session.issued, Session.after, Session.after, hmake]
  rw [hissued]
  exact hmeets.issued s

end

/-- **The address that an engine is made with carries the connection string.**  If the settings lack
nothing and are texts of characters, an endpoint without an engine makes one, with an address whose
only parameter is in encoded form: letters, digits and six marks that divide nothing.  The
connection string is read back from it, so that settings with another connection string have another
address. -/
theorem engine_address_carries {c : ConnectionSettings} (hc : c.IsUnicode)
    (hlack : (Endpoint.ofSettings c).lack? = none) :
    ∃ encoded : List Char,
      (∀ d ∈ encoded, IsEncodedChar d) ∧
      percentDecode? encoded = some (Endpoint.ofSettings c).connectionString ∧
      parameters? (addressFront ++ encoded) =
        some [(.ofString "odbc_connect", (Endpoint.ofSettings c).connectionString)] ∧
      (∀ {σ : Type} [Driver σ] (s : Link σ), s.engine = none → ∃ fault,
        (Endpoint.ofSettings c).getEngine.issued s =
          [⟨.createEngine (.ofChars (addressFront ++ encoded)) {}, s.autoCommit, fault⟩]) ∧
      ∀ e : Endpoint, e.url? = (Endpoint.ofSettings c).url? →
        e.connectionString = (Endpoint.ofSettings c).connectionString := by
  obtain ⟨cs, hcs⟩ := hc.connectionString
  have hencoded : ∀ d ∈ cs.flatMap percentChar, IsEncodedChar d := by
    intro d hd
    obtain ⟨_, _, hmem⟩ := List.mem_flatMap.mp hd
    exact isEncodedChar_of_mem_percentChar hmem
  have hdecoded : percentDecode? (cs.flatMap percentChar) =
      some (Endpoint.ofSettings c).connectionString := by
    rw [hcs, percentDecode?_encode]
  have hurl : (Endpoint.ofSettings c).url? =
      some (.ofChars (addressFront ++ cs.flatMap percentChar)) := by
    rw [Endpoint.url?, hcs, percentEncode?_ofChars, Text.ofChars_append]
    rfl
  refine ⟨cs.flatMap percentChar, hencoded, hdecoded, parameters?_of_encoded hencoded hdecoded,
    fun s hs => Endpoint.issued_getEngine hlack hurl hs, ?_⟩
  intro e he
  obtain ⟨encoded, hencode, haddress⟩ := Option.map_eq_some_iff.mp (he.trans hurl)
  have hsame : encoded = cs.flatMap percentChar := by
    rw [Text.ofChars_append] at haddress
    exact Text.ofChars_inj (List.append_cancel_left haddress)
  have hread := percentDecode?_of_encode hencode
  rw [hsame, hdecoded] at hread
  exact (Option.some.inj hread).symm

/-- Marks of an address in a password, and characters of two and of four bytes. -/
theorem marks_in_password_carried :
    let c : ConnectionSettings := {
      server := "s", database := "d", authMode := .sql, username := some "u"
      password := some "a+b %26&x=1#?é😀" }
    c.IsUnicode ∧ (Endpoint.ofSettings c).lack? = none ∧
      ∃ encoded : List Char,
        parameters? (addressFront ++ encoded) =
          some [(.ofString "odbc_connect", (Endpoint.ofSettings c).connectionString)] ∧
        ∀ s : Link Script, s.engine = none → ∃ fault,
          (Endpoint.ofSettings c).getEngine.issued s =
            [⟨.createEngine (.ofChars (addressFront ++ encoded)) {}, s.autoCommit, fault⟩] := by
  intro c
  have hc : c.IsUnicode := by
    refine ⟨Text.isUnicode_ofString _, Text.isUnicode_ofString _, Text.isUnicode_ofString _,
      ?_, ?_⟩
    all_goals
      intro t ht
      cases ht
      exact Text.isUnicode_ofString _
  have hlack : (Endpoint.ofSettings c).lack? = none := rfl
  obtain ⟨encoded, _, _, hparameters, hissued, _⟩ := engine_address_carries hc hlack
  exact ⟨hc, hlack, encoded, hparameters, fun s hs => hissued s hs⟩

end StagedLoad

import StagedLoad.Endpoint

/-!
# Reading a connection string back

A connection string is a row of attributes, each a keyword and a value, with semicolons between
them.  A value that begins with an opening brace reaches up to the closing brace that is not
doubled; any other value reaches up to the next semicolon.

The endpoint puts braces around the driver only and doubles none, so what is read back depends on
the settings: one semicolon in a password ends the attribute and begins another one.

* `attributes?` : the attributes of a connection string.
* `attributes_braced` : in braces every value can be written so that it is read back.
* `attributes_value_iff`, `attributes_driver_iff` : which values are read back as they were written.
* `connectionString_carries_iff` : which settings a connection string carries.
-/

namespace StagedLoad

/-! ## Reading attributes -/

/-- Where a reader of a connection string is, with the part of the attribute that it has read. -/
inductive AttributePlace where
  | keyword (name : Text)
  /-- In front of the value. -/
  | value (name : Text)
  | bare (name value : Text)
  | braced (name value : Text)
  /-- Behind a closing brace, which ends the value unless another one follows. -/
  | closed (name value : Text)

/-- The attributes from the place on.  Empty attributes are passed over. -/
def AttributePlace.attributes : AttributePlace → Text → Option (List (Text × Text))
  | keyword name, [] => if name.isEmpty then some [] else none
  | keyword name, c :: t =>
    if c = .char '=' then (value name).attributes t
    else if c = .char ';' then if name.isEmpty then (keyword []).attributes t else none
    else (keyword (name ++ [c])).attributes t
  | value name, [] => some [(name, [])]
  | value name, c :: t =>
    if c = .char '\x7b' then (braced name []).attributes t
    else if c = .char ';' then ((keyword []).attributes t).map ((name, []) :: ·)
    else (bare name [c]).attributes t
  | bare name v, [] => some [(name, v)]
  | bare name v, c :: t =>
    if c = .char ';' then ((keyword []).attributes t).map ((name, v) :: ·)
    else (bare name (v ++ [c])).attributes t
  | braced _ _, [] => none
  | braced name v, c :: t =>
    if c = .char '\x7d' then (closed name v).attributes t else (braced name (v ++ [c])).attributes t
  | closed name v, [] => some [(name, v)]
  | closed name v, c :: t =>
    if c = .char '\x7d' then (braced name (v ++ [c])).attributes t
    else if c = .char ';' then ((keyword []).attributes t).map ((name, v) :: ·)
    else none

/-- The attributes of a connection string, if it is one. -/
def attributes? (t : Text) : Option (List (Text × Text)) := (AttributePlace.keyword []).attributes t

open AttributePlace

variable {name v w rest : Text} {more : List (Text × Text)}

/-! ## Values without braces -/

/-- The value is read back as it stands: it has no end in it, and no brace opens it. -/
def IsBare (v : Text) : Prop := .char ';' ∉ v ∧ v.head? ≠ some (.char '\x7b')

instance (v : Text) : Decidable (IsBare v) := inferInstanceAs (Decidable (_ ∧ _))

/-- A bare value goes on up to the next semicolon. -/
theorem attributes_bare (hw : Symbol.char ';' ∉ w) :
    (bare name v).attributes (w ++ .char ';' :: rest) =
      (attributes? rest).map ((name, v ++ w) :: ·) := by
  induction w generalizing v with
  | nil => simp [attributes, attributes?]
  | cons c w ih =>
    rw [List.mem_cons, not_or] at hw
    have hnext := ih (v := v ++ [c]) hw.2
    rw [List.append_assoc] at hnext
    rw [List.cons_append, attributes, if_neg (Ne.symm hw.1)]
    exact hnext

/-- A value that can stand bare is read back. -/
theorem attributes_value_of_bare (hw : IsBare w) :
    (value name).attributes (w ++ .char ';' :: rest) = (attributes? rest).map ((name, w) :: ·) := by
  cases w with
  | nil => rfl
  | cons c w =>
    obtain ⟨hsemicolon, hbrace⟩ := hw
    rw [List.mem_cons, not_or] at hsemicolon
    have hopen : c ≠ .char '\x7b' := fun h => hbrace (congrArg some h)
    rw [List.cons_append, attributes, if_neg hopen, if_neg (Ne.symm hsemicolon.1)]
    exact attributes_bare hsemicolon.2

/-! ## Values in braces -/

/-- The text with its closing braces doubled. -/
def doubleBraces (t : Text) : Text :=
  t.flatMap fun c => if c = .char '\x7d' then [c, c] else [c]

theorem doubleBraces_brace (t : Text) :
    doubleBraces (.char '\x7d' :: t) = .char '\x7d' :: .char '\x7d' :: doubleBraces t := rfl

theorem doubleBraces_other {c : Symbol} (hc : c ≠ .char '\x7d') (t : Text) :
    doubleBraces (c :: t) = c :: doubleBraces t := by
  rw [doubleBraces, List.flatMap_cons, if_neg hc]
  rfl

/-- What the reader takes for a value in braces stands there with its closing braces doubled. -/
theorem attributes_braced_first {t : Text} {a : Text × Text} :
    ((braced name v).attributes t = some (a :: more) →
      ∃ u tail, a.2 = v ++ u ∧ t = doubleBraces u ++ .char '\x7d' :: tail) ∧
    ((closed name v).attributes t = some (a :: more) →
      a.2 = v ∨ ∃ u tail, a.2 = v ++ .char '\x7d' :: u ∧
        t = .char '\x7d' :: (doubleBraces u ++ .char '\x7d' :: tail)) := by
  induction t generalizing v with
  | nil =>
    refine ⟨nofun, ?_⟩
    intro h
    cases h
    exact .inl rfl
  | cons c t ih =>
    constructor
    · intro h
      rw [attributes] at h
      split at h
      · next hc =>
        subst hc
        rcases ih.2 h with hv | ⟨u, tail, hv, rfl⟩
        · exact ⟨[], t, hv.trans (List.append_nil v).symm, rfl⟩
        · exact ⟨.char '\x7d' :: u, tail, hv, rfl⟩
      · next hc =>
        obtain ⟨u, tail, hv, rfl⟩ := ih.1 h
        rw [List.append_assoc] at hv
        refine ⟨c :: u, tail, hv, ?_⟩
        rw [doubleBraces_other hc]
        rfl
    · intro h
      rw [attributes] at h
      split at h
      · next hc =>
        subst hc
        obtain ⟨u, tail, hv, rfl⟩ := ih.1 h
        rw [List.append_assoc] at hv
        exact .inr ⟨u, tail, hv, rfl⟩
      · split at h
        · obtain ⟨more', _, hmore⟩ := Option.map_eq_some_iff.mp h
          cases hmore
          exact .inl rfl
        · cases h

/-- Without a closing brace nothing is doubled. -/
theorem doubleBraces_of_not_mem {t : Text} (h : .char '\x7d' ∉ t) : doubleBraces t = t := by
  induction t with
  | nil => rfl
  | cons c t ih =>
    rw [List.mem_cons, not_or] at h
    rw [doubleBraces_other (Ne.symm h.1), ih h.2]

/-- Every value is read back from braces, if its own closing braces are doubled there. -/
theorem attributes_braced (name v w rest : Text) :
    (braced name v).attributes (doubleBraces w ++ .char '\x7d' :: .char ';' :: rest) =
      (attributes? rest).map ((name, v ++ w) :: ·) := by
  induction w generalizing v with
  | nil => simp [doubleBraces, attributes, attributes?]
  | cons c w ih =>
    have hnext := ih (v ++ [c])
    rw [List.append_assoc] at hnext
    by_cases hc : c = .char '\x7d'
    · subst hc
      rw [doubleBraces_brace, List.cons_append, attributes, if_pos rfl, List.cons_append,
        attributes, if_pos rfl]
      exact hnext
    · rw [doubleBraces_other hc, List.cons_append, attributes, if_neg hc]
      exact hnext

/-- A value that an opening brace makes longer is not what is read: symbol by symbol, it would have
to begin with braces without end. -/
theorem ne_of_opened (w rest tail : Text) :
    w ++ .char ';' :: rest ≠ .char '\x7b' :: (doubleBraces w ++ .char '\x7d' :: tail) := by
  induction w with
  | nil => intro h; cases h
  | cons c w ih =>
    intro h
    obtain ⟨rfl, h⟩ := List.cons.inj h
    exact ih h

/-- Nor is one with a closing brace, for that is doubled in what is read. -/
theorem ne_of_closed (w rest tail : Text) (n : Nat) :
    w ++ .char '\x7d' :: .char ';' :: rest ≠
      List.replicate (n + 1) (.char '\x7d') ++ (doubleBraces w ++ .char '\x7d' :: tail) := by
  induction w generalizing n with
  | nil =>
    intro h
    cases n with
    | zero => cases h
    | succ n => cases h
  | cons c w ih =>
    intro h
    rw [List.replicate_succ] at h
    obtain ⟨rfl, h⟩ := List.cons.inj h
    rw [doubleBraces_brace] at h
    refine ih (n + 1) (h.trans ?_)
    simp [List.replicate_succ']

/-- Only a value without closing braces is the same when these are doubled. -/
theorem not_mem_of_doubled {tail : Text}
    (h : w ++ .char '\x7d' :: .char ';' :: rest = doubleBraces w ++ .char '\x7d' :: tail) :
    .char '\x7d' ∉ w := by
  induction w with
  | nil => exact nofun
  | cons c w ih =>
    by_cases hc : c = .char '\x7d'
    · subst hc
      rw [doubleBraces_brace] at h
      exact absurd (List.cons.inj h).2 (ne_of_closed w rest tail 0)
    · rw [doubleBraces_other hc] at h
      have hw := ih (List.cons.inj h).2
      exact List.not_mem_cons_of_ne_of_not_mem (Ne.symm hc) hw

/-! ## What is read back -/

/-- A value that is read back has no end in it and no brace opens it. -/
theorem isBare_of_attributes
    (h : (value name).attributes (w ++ .char ';' :: rest) = some ((name, w) :: more)) :
    IsBare w := by
  have hopen : w.head? ≠ some (.char '\x7b') := by
    intro hhead
    obtain ⟨w, rfl⟩ := List.head?_eq_some_iff.mp hhead
    obtain ⟨u, tail, hu, ht⟩ := attributes_braced_first.1 h
    rw [List.nil_append] at hu
    rw [← hu, doubleBraces_other (by decide)] at ht
    exact ne_of_opened w rest tail ht
  refine ⟨?_, hopen⟩
  intro hmem
  obtain ⟨before, after, rfl, hbefore⟩ := List.eq_append_cons_of_mem hmem
  have hbare : IsBare before := by
    refine ⟨hbefore, ?_⟩
    cases before with
    | nil => exact nofun
    | cons c before => exact hopen
  rw [List.append_assoc, List.cons_append, attributes_value_of_bare hbare] at h
  obtain ⟨_, _, hmore⟩ := Option.map_eq_some_iff.mp h
  have hsame : before = before ++ .char ';' :: after := by
    injection hmore with hfirst
    injection hfirst
  simp at hsame

/-- **A value without braces** is read back if and only if it has no end in it and no brace opens
it. -/
theorem attributes_value_iff :
    (value name).attributes (w ++ .char ';' :: rest) = some ((name, w) :: more) ↔
      IsBare w ∧ attributes? rest = some more := by
  constructor
  · intro h
    have hbare := isBare_of_attributes h
    rw [attributes_value_of_bare hbare] at h
    obtain ⟨_, hrest, hmore⟩ := Option.map_eq_some_iff.mp h
    cases hmore
    exact ⟨hbare, hrest⟩
  · rintro ⟨hbare, hrest⟩
    rw [attributes_value_of_bare hbare, hrest]
    rfl

/-- **A value in braces** is read back if and only if it has no closing brace. -/
theorem attributes_driver_iff :
    (value name).attributes (.char '\x7b' :: (w ++ .char '\x7d' :: .char ';' :: rest)) =
        some ((name, w) :: more) ↔
      .char '\x7d' ∉ w ∧ attributes? rest = some more := by
  rw [attributes, if_pos rfl]
  constructor
  · intro h
    obtain ⟨u, tail, hu, ht⟩ := attributes_braced_first.1 h
    obtain rfl : w = u := hu
    have hclosed := not_mem_of_doubled ht
    have hread := attributes_braced name [] w rest
    rw [doubleBraces_of_not_mem hclosed, h] at hread
    obtain ⟨_, hrest, hmore⟩ := Option.map_eq_some_iff.mp hread.symm
    cases hmore
    exact ⟨hclosed, hrest⟩
  · rintro ⟨hclosed, hrest⟩
    have hread := attributes_braced name [] w rest
    rw [doubleBraces_of_not_mem hclosed, hrest] at hread
    exact hread

/-- The keyword has neither the symbol that ends it nor one that ends an attribute. -/
def IsKeyword (name : Text) : Prop := .char '=' ∉ name ∧ .char ';' ∉ name

instance (name : Text) : Decidable (IsKeyword name) := inferInstanceAs (Decidable (_ ∧ _))

/-- A keyword goes on up to the equals sign. -/
theorem attributes_keyword (hname : IsKeyword name) (t : Text) :
    (keyword v).attributes (name ++ .char '=' :: t) = (value (v ++ name)).attributes t := by
  induction name generalizing v with
  | nil => rw [List.append_nil, List.nil_append, attributes, if_pos rfl]
  | cons c name ih =>
    obtain ⟨hequals, hsemicolon⟩ := hname
    rw [List.mem_cons, not_or] at hequals hsemicolon
    have hnext := ih (v := v ++ [c]) ⟨hequals.2, hsemicolon.2⟩
    rw [List.append_assoc] at hnext
    rw [List.cons_append, attributes, if_neg (Ne.symm hequals.1), if_neg (Ne.symm hsemicolon.1)]
    exact hnext

/-- Attributes with a semicolon behind each. -/
def writeAttributes (as : List (Text × Text)) : Text :=
  as.flatMap fun a => a.1 ++ .char '=' :: (a.2 ++ [.char ';'])

/-- **Attributes are read back as they were written** if and only if each of their values is bare.
-/
theorem attributes_write_iff {as : List (Text × Text)} (hnames : ∀ a ∈ as, IsKeyword a.1) :
    attributes? (writeAttributes as) = some as ↔ ∀ a ∈ as, IsBare a.2 := by
  induction as with
  | nil => exact iff_of_true rfl nofun
  | cons a as ih =>
    obtain ⟨name, w⟩ := a
    rw [List.forall_mem_cons] at hnames
    have hsplit : writeAttributes ((name, w) :: as) =
        name ++ .char '=' :: (w ++ .char ';' :: writeAttributes as) := by
      simp [writeAttributes]
    rw [hsplit, attributes?, attributes_keyword hnames.1, List.nil_append, attributes_value_iff,
      ih hnames.2, List.forall_mem_cons]

/-! ## The string of an endpoint -/

/-- What the settings of a login by password are to be read back as. -/
def ConnectionSettings.attributes (c : ConnectionSettings) : List (Text × Text) := [
  ("Driver", c.driver),
  ("Server", "tcp:" ++ c.server ++ "," ++ toString c.port),
  ("Database", c.database),
  ("Encrypt", "yes"),
  ("TrustServerCertificate", "yes"),
  ("Connection Timeout", toString c.timeout),
  ("UID", c.username.getD []),
  ("PWD", c.password.getD [])]

/-- A number is read back as it stands. -/
theorem isBare_toString (n : Int) : IsBare (Text.ofString (toString n)) := by
  have hapart {c : Char} (hc : .char c ∈ Text.ofString (toString n)) : c ≠ ';' ∧ c ≠ '\x7b' := by
    obtain ⟨d, hmem, hd⟩ := List.mem_map.mp hc
    obtain rfl := Symbol.char.inj hd
    rcases mem_toString hmem with rfl | hdigit
    · decide
    · constructor <;> rintro rfl <;> cases hdigit
  refine ⟨fun hmem => (hapart hmem).1 rfl, ?_⟩
  intro hhead
  exact (hapart (List.mem_of_mem_head? hhead)).2 rfl

/-- Nothing in the settings ends a value or opens a brace. -/
structure ConnectionSettings.Carriable (c : ConnectionSettings) : Prop where
  driver : .char '\x7d' ∉ c.driver
  server : .char ';' ∉ c.server
  database : IsBare c.database
  username : IsBare (c.username.getD [])
  password : IsBare (c.password.getD [])

/-- The address is bare if the name of the server has no semicolon. -/
theorem isBare_address (server : Text) (port : Int) :
    IsBare ("tcp:" ++ server ++ "," ++ toString port) ↔ .char ';' ∉ server := by
  constructor
  · intro h hserver
    refine h.1 ?_
    simp [hserver]
  · intro hserver
    refine ⟨?_, nofun⟩
    have hport := (isBare_toString port).1
    have htcp : Symbol.char ';' ∉ Text.ofString "tcp:" := by decide
    have hcomma : Symbol.char ';' ∉ Text.ofString "," := by decide
    simp only [List.mem_append, not_or]
    exact ⟨⟨⟨htcp, hserver⟩, hcomma⟩, hport⟩

/-- The values behind the driver are bare if nothing in the settings ends or opens one. -/
theorem ConnectionSettings.bare_iff {c : ConnectionSettings} :
    (∀ a ∈ c.attributes.tail, IsBare a.2) ↔
      .char ';' ∉ c.server ∧ IsBare c.database ∧ IsBare (c.username.getD []) ∧
        IsBare (c.password.getD []) := by
  have hyes : IsBare (Text.ofString "yes") := by decide
  simp only [attributes, List.tail_cons, List.forall_mem_cons, isBare_address, isBare_toString,
    hyes, List.not_mem_nil, true_and, and_true, false_imp_iff, implies_true]

/-- A login by password that lacks nothing has both its parts. -/
theorem Endpoint.login_of_no_lack {e : Endpoint} (hmode : e.authMode = .sql)
    (hlack : e.lack? = none) : ∃ u p, e.username = some u ∧ e.password = some p := by
  have hlogin : isPresent e.username = true ∧ isPresent e.password = true := by
    unfold lack? at hlack
    split at hlack
    · cases hlack
    · split at hlack
      · cases hlack
      · split at hlack
        · cases hlack
        · next h => simpa [hmode] using h
  obtain ⟨husername, hpassword⟩ := hlogin
  obtain ⟨u, hu⟩ := Option.isSome_iff_exists.mp (Option.isSome_of_any husername)
  obtain ⟨p, hp⟩ := Option.isSome_iff_exists.mp (Option.isSome_of_any hpassword)
  exact ⟨u, p, hu, hp⟩

/-- The connection string is the driver in braces and the other attributes as they are. -/
theorem connectionString_eq {c : ConnectionSettings} {u p : Text} (hmode : c.authMode = .sql)
    (hu : c.username = some u) (hp : c.password = some p) :
    (Endpoint.ofSettings c).connectionString =
      Text.ofString "Driver" ++ .char '=' :: .char '\x7b' ::
        (c.driver ++ .char '\x7d' :: .char ';' :: writeAttributes c.attributes.tail) := by
  simp only [Endpoint.connectionString, Endpoint.ofSettings, hmode, hu, hp, writeAttributes,
    ConnectionSettings.attributes, List.tail_cons, List.flatMap_cons, List.flatMap_nil,
    List.append_assoc, List.cons_append, List.nil_append]
  rfl

/-- **The settings are read back from the connection string** if and only if nothing in them ends a
value or opens a brace. -/
theorem connectionString_carries_iff {c : ConnectionSettings} (hmode : c.authMode = .sql)
    (hlack : (Endpoint.ofSettings c).lack? = none) :
    attributes? (Endpoint.ofSettings c).connectionString = some c.attributes ↔ c.Carriable := by
  have hkeywords : ∀ a ∈ c.attributes.tail, IsKeyword a.1 := by
    simp [ConnectionSettings.attributes]
    decide
  have hread : (value "Driver").attributes (.char '\x7b' :: (c.driver ++
      .char '\x7d' :: .char ';' :: writeAttributes c.attributes.tail)) = some c.attributes ↔
      .char '\x7d' ∉ c.driver ∧ .char ';' ∉ c.server ∧ IsBare c.database ∧
        IsBare (c.username.getD []) ∧ IsBare (c.password.getD []) := by
    rw [← ConnectionSettings.bare_iff, ← attributes_write_iff hkeywords]
    exact attributes_driver_iff
  obtain ⟨u, p, hu, hp⟩ := Endpoint.login_of_no_lack (e := .ofSettings c) hmode hlack
  rw [connectionString_eq hmode hu hp, attributes?, attributes_keyword (by decide),
    List.nil_append]
  constructor
  · intro h
    obtain ⟨hdriver, hserver, hdatabase, husername, hpassword⟩ := hread.mp h
    exact ⟨hdriver, hserver, hdatabase, husername, hpassword⟩
  · rintro ⟨hdriver, hserver, hdatabase, husername, hpassword⟩
    exact hread.mpr ⟨hdriver, hserver, hdatabase, husername, hpassword⟩

/-- Equals signs and braces inside of a password do no harm. -/
theorem inner_braces_carried :
    let c : ConnectionSettings := {
      server := "s", database := "d", authMode := .sql, username := some "u"
      password := some "a=\x7db\x7bc" }
    c.authMode = .sql ∧ (Endpoint.ofSettings c).lack? = none ∧
      attributes? (Endpoint.ofSettings c).connectionString = some c.attributes := by
  intro c
  have hcarriable : c.Carriable :=
    ⟨by decide, by decide, by decide, by decide, by decide⟩
  exact ⟨rfl, rfl, (connectionString_carries_iff rfl rfl).mpr hcarriable⟩

/-- A semicolon in a password ends it and adds an attribute, so not all settings are carried. -/
theorem semicolon_adds_attribute :
    ¬ ∀ c : ConnectionSettings, c.authMode = .sql → (Endpoint.ofSettings c).lack? = none →
      attributes? (Endpoint.ofSettings c).connectionString = some c.attributes := by
  intro hall
  let c : ConnectionSettings := {
    server := "s", database := "d", authMode := .sql, username := some "u"
    password := some "p;Encrypt=no" }
  let cut : List (Text × Text) := [("PWD", "p"), ("Encrypt", "no")]
  have hread : attributes? (Endpoint.ofSettings c).connectionString =
      some (c.attributes.dropLast ++ cut) := by
    decide +kernel
  have hsame := (hall c rfl rfl).symm.trans hread
  revert hsame
  decide

end StagedLoad

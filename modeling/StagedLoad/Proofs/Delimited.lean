import StagedLoad.Sql.Collect

/-!
# Collect statements can be told apart

Nothing inside a quoted name is escaped, and yet a statement can be read back, as long as no name
holds the quoting mark: a name ends at the next mark, and what separates names, lists and clauses
never begins like what it separates.  So the text determines every part that it was put together
from, whatever the names look like.

* `Delimited` : what was written, and where it ends, can be told from the text.
* `Delimited.join` : this survives lists, if their end differs from separators and members.
* `collect_inputs_determined` : the inputs of a collect statement can be told from it.
-/

namespace StagedLoad

variable {α : Type}

/-! ## Writing that can be told from what follows -/

/-- The text begins with none of the symbols. -/
def Avoids (stops t : Text) : Prop := ∀ x ∈ t.head?, x ∉ stops

theorem avoids_nil (stops : Text) : Avoids stops [] := fun _ hx => nomatch hx

/-- Only the first symbol counts. -/
theorem Avoids.of_head {stops t : Text} {x : Symbol} (hx : t.head? = some x) (h : x ∉ stops) :
    Avoids stops t := by
  intro y hy
  obtain rfl := Option.some.inj (hx.symm.trans hy)
  exact h

theorem Avoids.mono {stops stops' t : Text} (h : Avoids stops' t) (hsub : stops ⊆ stops') :
    Avoids stops t := fun x hx hstop => h x hx (hsub hstop)

/-- **What is written and where it ends can be told from the text**, if what follows begins with
none of the stop symbols. -/
def Delimited (write : α → Text) (stops : Text) (P : α → Prop) : Prop :=
  ∀ a b rest rest', P a → P b → Avoids stops rest → Avoids stops rest' →
    write a ++ rest = write b ++ rest' → a = b ∧ rest = rest'

/-- The members of a list, each behind a separator. -/
def separated (separator : Text) (parts : List Text) : Text :=
  (parts.map (separator ++ ·)).flatten

/-- The first member stands behind a separator, and the others behind theirs. -/
theorem separated_cons (separator part : Text) (parts : List Text) :
    separated separator (part :: parts) = separator ++ (part ++ separated separator parts) := by
  simp [separated]

/-- A list is its first member, and the others behind separators. -/
theorem Text.join_cons (separator part : Text) (parts : List Text) :
    Text.join separator (part :: parts) = part ++ separated separator parts := by
  induction parts generalizing part with
  | nil => simp [join, separated]
  | cons next parts ih =>
    have hjoin : Text.join separator (part :: next :: parts) =
        part ++ (separator ++ Text.join separator (next :: parts)) := by simp [join]
    rw [hjoin, ih, separated_cons]

namespace Delimited

variable {write : α → Text} {stops stops' separator : Text} {P : α → Prop}

/-- What nothing follows can be told from the text. -/
theorem inj (hwrite : Delimited write stops P) {a b : α} (ha : P a) (hb : P b)
    (h : write a = write b) : a = b := by
  have hend : write a ++ [] = write b ++ [] := congrArg (· ++ []) h
  exact (hwrite a b [] [] ha hb (avoids_nil _) (avoids_nil _) hend).1

/-- What follows a member of a list is a separator, or what follows the list. -/
theorem avoids_separated {parts : List Text} {rest : Text}
    (hseparator : ∀ t, Avoids stops (separator ++ t)) (hrest : Avoids stops rest) :
    Avoids stops (separated separator parts ++ rest) := by
  cases parts with
  | nil => exact hrest
  | cons part parts =>
    rw [separated_cons, List.append_assoc]
    exact hseparator _

/-- Members behind separators, by induction on both lists: they end where no separator comes. -/
theorem separated (hwrite : Delimited write stops P) (hsub : stops ⊆ stops')
    (hseparator : ∀ t, Avoids stops (separator ++ t))
    (hend : ∀ t, ¬ Avoids stops' (separator ++ t)) :
    Delimited (fun xs : List α => StagedLoad.separated separator (xs.map write)) stops'
      (fun xs => ∀ x ∈ xs, P x) := by
  have hcons : ∀ (x : α) (xs : List α) (rest : Text),
      StagedLoad.separated separator ((x :: xs).map write) ++ rest =
        separator ++ (write x ++ (StagedLoad.separated separator (xs.map write) ++ rest)) := by
    simp [separated_cons]
  intro xs ys rest rest' hxs hys hrest hrest' h
  induction xs generalizing ys with
  | nil =>
    cases ys with
    | nil => exact ⟨rfl, h⟩
    | cons y ys =>
      have h : rest = _ := h.trans (hcons y ys rest')
      exact absurd (h ▸ hrest) (hend _)
  | cons x xs ih =>
    cases ys with
    | nil =>
      have h : _ = rest' := (hcons x xs rest).symm.trans h
      exact absurd (h ▸ hrest') (hend _)
    | cons y ys =>
      rw [List.forall_mem_cons] at hxs hys
      simp only [hcons] at h
      obtain ⟨rfl, htail⟩ := hwrite x y _ _ hxs.1 hys.1
        (avoids_separated hseparator (hrest.mono hsub))
        (avoids_separated hseparator (hrest'.mono hsub)) (List.append_cancel_left h)
      obtain ⟨rfl, hlast⟩ := ih ys hxs.2 hys.2 htail
      exact ⟨rfl, hlast⟩

/-- **Lists survive**, if no member looks like what follows the list: then an empty list can be told
from the others as well. -/
theorem join (hwrite : Delimited write stops P) (hsub : stops ⊆ stops')
    (hseparator : ∀ t, Avoids stops (separator ++ t))
    (hend : ∀ t, ¬ Avoids stops' (separator ++ t))
    (hmember : ∀ x t, ¬ Avoids stops' (write x ++ t)) :
    Delimited (fun xs : List α => Text.join separator (xs.map write)) stops'
      (fun xs => ∀ x ∈ xs, P x) := by
  have hcons : ∀ (x : α) (xs : List α) (rest : Text),
      Text.join separator ((x :: xs).map write) ++ rest =
        write x ++ (StagedLoad.separated separator (xs.map write) ++ rest) := by
    simp [Text.join_cons]
  intro xs ys rest rest' hxs hys hrest hrest' h
  cases xs with
  | nil =>
    cases ys with
    | nil => exact ⟨rfl, h⟩
    | cons y ys =>
      have h : rest = _ := h.trans (hcons y ys rest')
      exact absurd (h ▸ hrest) (hmember y _)
  | cons x xs =>
    cases ys with
    | nil =>
      have h : _ = rest' := (hcons x xs rest).symm.trans h
      exact absurd (h ▸ hrest') (hmember x _)
    | cons y ys =>
      rw [List.forall_mem_cons] at hxs hys
      simp only [hcons] at h
      obtain ⟨rfl, htail⟩ := hwrite x y _ _ hxs.1 hys.1
        (avoids_separated hseparator (hrest.mono hsub))
        (avoids_separated hseparator (hrest'.mono hsub)) h
      obtain ⟨rfl, hlast⟩ :=
        hwrite.separated hsub hseparator hend xs ys rest rest' hxs.2 hys.2 hrest hrest' htail
      exact ⟨rfl, hlast⟩

end Delimited

/-! ## Names and tables -/

/-- The name does not hold the quoting mark. -/
def Unmarked (name : Text) : Prop := .char '\x22' ∉ name

instance (name : Text) : Decidable (Unmarked name) := inferInstanceAs (Decidable (_ ∉ _))

/-- A name ends at the first mark. -/
theorem eq_of_marked {name name' rest rest' : Text} (hname : Unmarked name)
    (hname' : Unmarked name')
    (h : name ++ Symbol.char '\x22' :: rest = name' ++ Symbol.char '\x22' :: rest') :
    name = name' ∧ rest = rest' := by
  induction name generalizing name' with
  | nil =>
    cases name' with
    | nil => exact ⟨rfl, (List.cons.inj h).2⟩
    | cons x name' =>
      obtain ⟨rfl, _⟩ := List.cons.inj h
      exact absurd List.mem_cons_self hname'
  | cons x name ih =>
    cases name' with
    | nil =>
      obtain ⟨rfl, _⟩ := List.cons.inj h
      exact absurd List.mem_cons_self hname
    | cons y name' =>
      obtain ⟨rfl, htail⟩ := List.cons.inj h
      obtain ⟨rfl, hrest⟩ := ih (fun hx => hname (List.mem_cons_of_mem _ hx))
        (fun hx => hname' (List.mem_cons_of_mem _ hx)) htail
      exact ⟨rfl, hrest⟩

namespace Quoting

theorem identifier_append (name rest : Text) :
    ({} : Quoting).identifier name ++ rest =
      Symbol.char '\x22' :: (name ++ Symbol.char '\x22' :: rest) := by
  have hmark : ({} : Quoting).mark = [.char '\x22'] := rfl
  rw [identifier, hmark]
  simp

/-- A quoted name can be told from whatever follows. -/
theorem delimited_identifier : Delimited ({} : Quoting).identifier [] Unmarked := by
  intro name name' rest rest' hname hname' _ _ h
  rw [identifier_append, identifier_append] at h
  exact eq_of_marked hname hname' (List.cons.inj h).2

/-- A quoted name begins with the mark. -/
theorem not_avoids_identifier {stops : Text} (hmark : Symbol.char '\x22' ∈ stops)
    (name rest : Text) : ¬ Avoids stops (({} : Quoting).identifier name ++ rest) := by
  rw [identifier_append]
  intro h
  exact h _ rfl hmark

end Quoting

/-- The names of the reference hold no mark, and one with a database has a schema as well. -/
structure TableRef.Readable (t : TableRef) : Prop where
  unmarked : ∀ name ∈ t.parts, Unmarked name
  schema : t.database.isSome → t.schema.isSome

instance (t : TableRef) : Decidable t.Readable :=
  decidable_of_iff ((∀ name ∈ t.parts, Unmarked name) ∧ (t.database.isSome → t.schema.isSome))
    ⟨fun ⟨unmarked, schema⟩ => ⟨unmarked, schema⟩, fun h => ⟨h.unmarked, h.schema⟩⟩

/-- The first reference has as its database, with no schema, what the second has as its schema, with
no database. -/
def TableRef.LiftsSchemaOf (a b : TableRef) : Prop :=
  a.table = b.table ∧ a.schema = none ∧ b.database = none ∧ a.database = b.schema ∧
    b.schema.isSome

instance (a b : TableRef) : Decidable (a.LiftsSchemaOf b) := inferInstanceAs (Decidable (_ ∧ _))

/-- The names of a reference tell it, except that the first of two may be a schema or a database:
otherwise their number tells which of them are there. -/
theorem TableRef.parts_eq_iff {a b : TableRef} :
    a.parts = b.parts ↔ a = b ∨ a.LiftsSchemaOf b ∨ b.LiftsSchemaOf a := by
  constructor
  · intro h
    obtain ⟨table, schema, database⟩ := a
    obtain ⟨table', schema', database'⟩ := b
    rcases schema with _ | schema <;> rcases database with _ | database <;>
      rcases schema' with _ | schema' <;> rcases database' with _ | database' <;>
      simp [parts] at h
    case none.none.none.none => exact .inl (by rw [h])
    case none.some.none.some => exact .inl (by rw [Qualifier.text_inj h.1, h.2])
    case none.some.some.none =>
      exact .inr (.inl ⟨h.2, rfl, rfl, congrArg some (Qualifier.text_inj h.1), rfl⟩)
    case some.none.none.some =>
      exact .inr (.inr ⟨h.2.symm, rfl, rfl, congrArg some (Qualifier.text_inj h.1).symm, rfl⟩)
    case some.none.some.none => exact .inl (by rw [Qualifier.text_inj h.1, h.2])
    case some.some.some.some =>
      exact .inl (by rw [Qualifier.text_inj h.1, Qualifier.text_inj h.2.1, h.2.2])
  · have hlifts {a b : TableRef} : a.LiftsSchemaOf b → a.parts = b.parts := by
      rintro ⟨htable, hschema, hdatabase, hqualifier, _⟩
      simp [parts, htable, hschema, hdatabase, hqualifier]
    rintro (rfl | h | h)
    · rfl
    · exact hlifts h
    · exact (hlifts h).symm

/-- With a database there is a schema, so no schema is lifted. -/
theorem TableRef.Readable.not_lifts {a b : TableRef} (ha : a.Readable) : ¬ a.LiftsSchemaOf b := by
  rintro ⟨_, hschema, _, hqualifier, hsome⟩
  have hthere : a.schema.isSome := ha.schema (hqualifier ▸ hsome)
  rw [hschema] at hthere
  exact absurd hthere Bool.false_ne_true

/-- The names of a reference tell it, if one with a database has a schema as well. -/
theorem TableRef.eq_of_parts {t t' : TableRef} (ht : t.Readable) (ht' : t'.Readable)
    (h : t.parts = t'.parts) : t = t' := by
  obtain heq | hlifts | hlifts := parts_eq_iff.mp h
  · exact heq
  · exact absurd hlifts ht.not_lifts
  · exact absurd hlifts ht'.not_lifts

/-- Quoted names with dots between them can be told from what follows, unless that goes on like
them. -/
theorem Quoting.delimited_names : Delimited
    (fun names : List Text => Text.join "." (names.map ({} : Quoting).identifier))
    ".\x22" (fun names => ∀ name ∈ names, Unmarked name) := by
  refine delimited_identifier.join (List.nil_subset _) ?_ ?_ ?_
  · exact fun _ _ _ => List.not_mem_nil
  · intro rest h
    exact h _ rfl (by decide)
  · exact not_avoids_identifier (by decide)

/-- A quoted table can be told from what follows, unless that goes on like its names. -/
theorem Quoting.delimited_table :
    Delimited ({} : Quoting).table ".\x22" TableRef.Readable := by
  intro t t' rest rest' ht ht' hrest hrest' h
  obtain ⟨hnames, rfl⟩ :=
    delimited_names _ _ rest rest' ht.unmarked ht'.unmarked hrest hrest' h
  exact ⟨TableRef.eq_of_parts ht ht' hnames, rfl⟩

/-! ## The parts of a collect statement -/

/-- The names in a list, each quoted. -/
def namesSql (names : List Text) : Text := Text.join ", " (names.map ({} : Quoting).identifier)

/-- One SELECT of a union, with its columns and its table. -/
def selectSql (part : List Text × TableRef) : Text :=
  "SELECT " ++ namesSql part.1 ++ " FROM " ++ ({} : Quoting).table part.2

/-- One key of a condition. -/
def keySql (key : Text) : Text :=
  "T." ++ ({} : Quoting).identifier key ++ " = S." ++ ({} : Quoting).identifier key

/-- One assignment of the default rule. -/
def assignmentSql (name : Text) : Text :=
  ({} : Quoting).identifier name ++ " = S." ++ ({} : Quoting).identifier name

/-- The list of columns is the list of their quoted names. -/
theorem columnList_eq (s : Schema) : columnList {} "" s = namesSql s.names := rfl

/-- The union is a list of SELECTs with the same columns. -/
theorem unionSql_eq (sources : List TableRef) (s : Schema) :
    unionSql {} sources s =
      Text.join " UNION ALL " ((sources.map fun t => (s.names, t)).map selectSql) := by
  rw [List.map_map]
  rfl

/-- Without a rule each column is assigned its own value. -/
theorem updateRule_eq {m : MergeSpec} (h : m.rule = none) (s : Schema) :
    updateRule {} s m = Text.join ", " (s.names.map assignmentSql) := by
  rw [updateRule, h]
  rfl

namespace Delimited

/-- A list of names ends where neither a name nor a comma comes. -/
theorem namesSql : Delimited namesSql ",\x22" (fun names => ∀ name ∈ names, Unmarked name) := by
  refine Quoting.delimited_identifier.join (List.nil_subset _) ?_ ?_ ?_
  · exact fun _ _ _ => List.not_mem_nil
  · intro rest h
    exact h _ rfl (by decide)
  · exact Quoting.not_avoids_identifier (by decide)

/-- A SELECT ends where its table does. -/
theorem selectSql : Delimited selectSql ".\x22"
    (fun part => (∀ name ∈ part.1, Unmarked name) ∧ part.2.Readable) := by
  rintro ⟨names, t⟩ ⟨names', t'⟩ rest rest' ⟨hnames, ht⟩ ⟨hnames', ht'⟩ hrest hrest' h
  simp only [StagedLoad.selectSql, List.append_assoc] at h
  obtain ⟨rfl, hfrom⟩ := namesSql names names' _ _ hnames hnames' (.of_head rfl (by decide))
    (.of_head rfl (by decide)) (List.append_cancel_left h)
  obtain ⟨rfl, hlast⟩ := Quoting.delimited_table t t' rest rest' ht ht' hrest hrest'
    (List.append_cancel_left hfrom)
  exact ⟨rfl, hlast⟩

/-- A union ends where neither a table goes on nor another SELECT comes. -/
theorem union : Delimited
    (fun parts : List (List Text × TableRef) =>
      Text.join " UNION ALL " (parts.map StagedLoad.selectSql)) " S.\x22"
    (fun parts => ∀ part ∈ parts, (∀ name ∈ part.1, Unmarked name) ∧ part.2.Readable) := by
  refine selectSql.join (by decide) ?_ ?_ ?_
  · exact fun _ => .of_head rfl (by decide)
  · intro rest h
    exact h _ rfl (by decide)
  · intro part rest h
    exact h _ rfl (by decide)

/-- A key is written twice, but its first writing tells it. -/
theorem keySql : Delimited keySql [] Unmarked := by
  intro key key' rest rest' hkey hkey' _ _ h
  simp only [StagedLoad.keySql, List.append_assoc] at h
  obtain ⟨rfl, hequals⟩ := Quoting.delimited_identifier key key' _ _ hkey hkey'
    (fun _ _ => List.not_mem_nil) (fun _ _ => List.not_mem_nil) (List.append_cancel_left h)
  exact ⟨rfl, List.append_cancel_left (List.append_cancel_left hequals)⟩

/-- A condition ends where neither a key nor `AND` comes. -/
theorem keyCondition :
    Delimited (keyCondition {}) " T" (fun keys => ∀ key ∈ keys, Unmarked key) := by
  refine keySql.join (List.nil_subset _) ?_ ?_ ?_
  · exact fun _ _ _ => List.not_mem_nil
  · intro rest h
    exact h _ rfl (by decide)
  · intro key rest h
    exact h _ rfl (by decide)

/-- An assignment ends with a quoted name. -/
theorem assignmentSql : Delimited assignmentSql [] Unmarked := by
  intro name name' rest rest' hname hname' _ _ h
  simp only [StagedLoad.assignmentSql, List.append_assoc] at h
  obtain ⟨rfl, hequals⟩ := Quoting.delimited_identifier name name' _ _ hname hname'
    (fun _ _ => List.not_mem_nil) (fun _ _ => List.not_mem_nil) h
  exact ⟨rfl, List.append_cancel_left (List.append_cancel_left hequals)⟩

/-- The default rule ends where neither a name nor a comma comes. -/
theorem rule : Delimited
    (fun names : List Text => Text.join ", " (names.map StagedLoad.assignmentSql)) ",\x22"
    (fun names => ∀ name ∈ names, Unmarked name) := by
  refine assignmentSql.join (List.nil_subset _) ?_ ?_ ?_
  · exact fun _ _ _ => List.not_mem_nil
  · intro rest h
    exact h _ rfl (by decide)
  · intro name rest
    rw [StagedLoad.assignmentSql, List.append_assoc, List.append_assoc]
    exact Quoting.not_avoids_identifier (by decide) name _

end Delimited

/-! ## The statements -/

/-- No name in the inputs of a collect statement holds the mark. -/
structure Readable (sources : List TableRef) (s : Schema) (target : TableRef) (keys : List Text) :
    Prop where
  sources : ∀ t ∈ sources, t.Readable
  columns : ∀ name ∈ s.columns.map Column.name, Unmarked name
  target : target.Readable
  keys : ∀ key ∈ keys, Unmarked key

instance (sources : List TableRef) (s : Schema) (target : TableRef) (keys : List Text) :
    Decidable (Readable sources s target keys) :=
  decidable_of_iff ((∀ t ∈ sources, t.Readable) ∧
      (∀ name ∈ s.columns.map Column.name, Unmarked name) ∧
      target.Readable ∧ ∀ key ∈ keys, Unmarked key)
    ⟨fun ⟨sources, columns, target, keys⟩ => ⟨sources, columns, target, keys⟩,
      fun h => ⟨h.sources, h.columns, h.target, h.keys⟩⟩

section

variable {sources sources' : List TableRef} {s s' : Schema} {target target' : TableRef}
  {keys keys' : List Text} {rest rest' : Text}

/-- No name that the statement lists holds the mark. -/
theorem Readable.names (h : Readable sources s target keys) : ∀ name ∈ s.names, Unmarked name :=
  h.columns

/-- The staging tables can be told from a union, though the columns cannot if there are none. -/
theorem sources_of_union (h : Readable sources s target keys)
    (h' : Readable sources' s' target' keys') (hrest : Avoids " S.\x22" rest)
    (hrest' : Avoids " S.\x22" rest')
    (hsql : unionSql {} sources s ++ rest = unionSql {} sources' s' ++ rest') :
    sources = sources' ∧ rest = rest' := by
  have hparts : ∀ {sources : List TableRef} {s : Schema} {target : TableRef} {keys : List Text},
      Readable sources s target keys → ∀ part ∈ sources.map fun t => (s.names, t),
        (∀ name ∈ part.1, Unmarked name) ∧ part.2.Readable := by
    intro sources s target keys h part hpart
    obtain ⟨t, ht, rfl⟩ := List.mem_map.mp hpart
    exact ⟨h.names, h.sources t ht⟩
  rw [unionSql_eq, unionSql_eq] at hsql
  obtain ⟨hsources, hlast⟩ :=
    Delimited.union _ _ rest rest' (hparts h) (hparts h') hrest hrest' hsql
  have htables := congrArg (List.map Prod.snd) hsources
  simp only [List.map_map, Function.comp_def, List.map_id'] at htables
  exact ⟨htables, hlast⟩

/-- Adding all staging rows tells tables and columns. -/
theorem append_inputs (h : Readable sources s target keys)
    (h' : Readable sources' s' target' keys')
    (hsql : appendSql {} sources s target = appendSql {} sources' s' target') :
    sources = sources' ∧ s.names = s'.names ∧ target = target' := by
  simp only [appendSql, columnList_eq, List.append_assoc] at hsql
  obtain ⟨htarget, hcolumns⟩ := Quoting.delimited_table _ _ _ _ h.target h'.target
    (.of_head rfl (by decide)) (.of_head rfl (by decide)) (List.append_cancel_left hsql)
  obtain ⟨hnames, hunion⟩ := Delimited.namesSql _ _ _ _ h.names h'.names
    (.of_head rfl (by decide)) (.of_head rfl (by decide)) (List.append_cancel_left hcolumns)
  have hend : unionSql {} sources s ++ [] = unionSql {} sources' s' ++ [] := by
    rw [List.append_nil, List.append_nil]
    exact List.append_cancel_left hunion
  obtain ⟨hsources, _⟩ := sources_of_union h h' (avoids_nil _) (avoids_nil _) hend
  exact ⟨hsources, hnames, htarget⟩

/-- Adding rows with new keys tells the keys as well. -/
theorem insert_inputs {m m' : MergeSpec} (h : Readable sources s target m.keys)
    (h' : Readable sources' s' target' m'.keys)
    (hsql : collectInsertSql {} sources s target m = collectInsertSql {} sources' s' target' m') :
    sources = sources' ∧ s.names = s'.names ∧ target = target' ∧ m.keys = m'.keys := by
  simp only [collectInsertSql, columnList_eq, List.append_assoc] at hsql
  obtain ⟨rfl, hcolumns⟩ := Quoting.delimited_table _ _ _ _ h.target h'.target
    (.of_head rfl (by decide)) (.of_head rfl (by decide)) (List.append_cancel_left hsql)
  obtain ⟨hnames, hunion⟩ := Delimited.namesSql _ _ _ _ h.names h'.names
    (.of_head rfl (by decide)) (.of_head rfl (by decide)) (List.append_cancel_left hcolumns)
  obtain ⟨hsources, hexists⟩ := sources_of_union h h' (.of_head rfl (by decide))
    (.of_head rfl (by decide)) (List.append_cancel_left hunion)
  -- the second writing of the target tells nothing new
  have hwhere := List.append_cancel_left (List.append_cancel_left hexists)
  obtain ⟨hkeys, _⟩ := Delimited.keyCondition _ _ _ _ h.keys h'.keys
    (.of_head rfl (by decide)) (.of_head rfl (by decide)) (List.append_cancel_left hwhere)
  exact ⟨hsources, hnames, rfl, hkeys⟩

/-- An update by the default rule tells tables, columns and keys. -/
theorem update_inputs {m m' : MergeSpec} (hrule : m.rule = none) (hrule' : m'.rule = none)
    (h : Readable sources s target m.keys) (h' : Readable sources' s' target' m'.keys)
    (hsql : collectUpdateSql {} sources s target m = collectUpdateSql {} sources' s' target' m') :
    sources = sources' ∧ s.names = s'.names ∧ target = target' ∧ m.keys = m'.keys := by
  simp only [collectUpdateSql, updateRule_eq hrule, updateRule_eq hrule', List.append_assoc] at hsql
  obtain ⟨hnames, hfrom⟩ := Delimited.rule _ _ _ _ h.names h'.names
    (.of_head rfl (by decide)) (.of_head rfl (by decide)) (List.append_cancel_left hsql)
  obtain ⟨htarget, hjoin⟩ := Quoting.delimited_table _ _ _ _ h.target h'.target
    (.of_head rfl (by decide)) (.of_head rfl (by decide)) (List.append_cancel_left hfrom)
  obtain ⟨hsources, hon⟩ := sources_of_union h h' (.of_head rfl (by decide))
    (.of_head rfl (by decide)) (List.append_cancel_left hjoin)
  have hkeys : m.keys = m'.keys :=
    Delimited.keyCondition.inj h.keys h'.keys (List.append_cancel_left hon)
  exact ⟨hsources, hnames, htarget, hkeys⟩

/-- A merge by the default rule tells tables, columns and keys. -/
theorem merge_inputs {m m' : MergeSpec} (hrule : m.rule = none) (hrule' : m'.rule = none)
    (h : Readable sources s target m.keys) (h' : Readable sources' s' target' m'.keys)
    (hsql : collectMergeSql {} sources s target m = collectMergeSql {} sources' s' target' m') :
    sources = sources' ∧ s.names = s'.names ∧ target = target' ∧ m.keys = m'.keys := by
  simp only [collectMergeSql, updateRule_eq hrule, updateRule_eq hrule', List.append_assoc] at hsql
  obtain ⟨htarget, husing⟩ := Quoting.delimited_table _ _ _ _ h.target h'.target
    (.of_head rfl (by decide)) (.of_head rfl (by decide)) (List.append_cancel_left hsql)
  obtain ⟨hsources, hon⟩ := sources_of_union h h' (.of_head rfl (by decide))
    (.of_head rfl (by decide)) (List.append_cancel_left husing)
  obtain ⟨hkeys, hmatched⟩ := Delimited.keyCondition _ _ _ _ h.keys h'.keys
    (.of_head rfl (by decide)) (.of_head rfl (by decide)) (List.append_cancel_left hon)
  obtain ⟨hnames, _⟩ := Delimited.rule _ _ _ _ h.names h'.names
    (.of_head rfl (by decide)) (.of_head rfl (by decide)) (List.append_cancel_left hmatched)
  exact ⟨hsources, hnames, htarget, hkeys⟩

end

/-- **A collect statement tells what it was made from.**  If no name holds the quoting mark, two
inputs with the same MERGE or the same UPDATE have the same staging tables, columns, target and
keys, each in the same order, as long as both use the default rule.  For the INSERT of missing rows
this holds whatever the rules are, and for the plain append up to the keys, which it does not
use. -/
theorem collect_inputs_determined {sources sources' : List TableRef} {s s' : Schema}
    {target target' : TableRef} {m m' : MergeSpec} (h : Readable sources s target m.keys)
    (h' : Readable sources' s' target' m'.keys) :
    (m.rule = none → m'.rule = none →
      collectMergeSql {} sources s target m = collectMergeSql {} sources' s' target' m' →
      sources = sources' ∧ s.columns.map Column.name = s'.columns.map Column.name ∧
        target = target' ∧ m.keys = m'.keys) ∧
    (m.rule = none → m'.rule = none →
      collectUpdateSql {} sources s target m = collectUpdateSql {} sources' s' target' m' →
      sources = sources' ∧ s.columns.map Column.name = s'.columns.map Column.name ∧
        target = target' ∧ m.keys = m'.keys) ∧
    (collectInsertSql {} sources s target m = collectInsertSql {} sources' s' target' m' →
      sources = sources' ∧ s.columns.map Column.name = s'.columns.map Column.name ∧
        target = target' ∧ m.keys = m'.keys) ∧
    (appendSql {} sources s target = appendSql {} sources' s' target' →
      sources = sources' ∧ s.columns.map Column.name = s'.columns.map Column.name ∧
        target = target') :=
  ⟨fun hrule hrule' => merge_inputs hrule hrule' h h',
    fun hrule hrule' => update_inputs hrule hrule' h h', insert_inputs h h', append_inputs h h'⟩

/-- Names that look like clauses: another table and another list of columns do not write the same
statement, though the one name holds the text between the two. -/
theorem lookalikes_determined :
    let target : TableRef := .make "orders" (some "dbo") (some "dw")
    let one : List TableRef := [.make "a FROM b UNION ALL SELECT c" none none]
    let two : List TableRef := [.make "a" none none, .make "b" none none]
    let s : Schema :=
      ⟨[{ name := "id, S.x", typeName := "INT" }, { name := "", typeName := "BIT" }]⟩
    let s' : Schema :=
      ⟨[{ name := "id, S.x", typeName := "BIT" }, { name := "", typeName := "INT" }]⟩
    let m : MergeSpec := { keys := ["id) WHEN MATCHED"] }
    Readable one s target m.keys ∧ Readable one s' target m.keys ∧ Readable two s target m.keys ∧
      (collectMergeSql {} one s target m = collectMergeSql {} one s' target m ∧
        s.columns.map Column.name = s'.columns.map Column.name) ∧
      collectMergeSql {} one s target m ≠ collectMergeSql {} two s target m := by
  intro target one two s s' m
  have hone : Readable one s target m.keys := by decide
  have hone' : Readable one s' target m.keys := by decide
  have htwo : Readable two s target m.keys := by decide
  have hsame : collectMergeSql {} one s target m = collectMergeSql {} one s' target m := rfl
  obtain ⟨hmerge, _⟩ := collect_inputs_determined hone hone'
  obtain ⟨hother, _⟩ := collect_inputs_determined hone htwo
  refine ⟨hone, hone', htwo, ⟨hsame, (hmerge rfl rfl hsame).2.1⟩, ?_⟩
  intro hequal
  have hsources : one = two := (hother rfl rfl hequal).1
  exact absurd hsources (by decide)

end StagedLoad

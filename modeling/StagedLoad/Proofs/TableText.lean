import Mathlib.Algebra.GroupWithZero.Nat
import StagedLoad.Proofs.Delimited

/-!
# Tables and their texts

A reference has two texts.  Quoted names cannot run into each other, but nothing tells whether the
first of two is a schema or a database.  In the dotted text empty names are left out and a dot may
be part of a name, so not every reference is read back from its text, and not every text is written
again from what it was read as.

* `quoted_tables_eq_iff` : which references have the same quoted text.
* `Text.join_filter_eq_iff` : leaving out an empty part always shows.
* `dotted_text_faithful` : what is read back and what is written again.
-/

namespace StagedLoad

/-! ## Quoted texts -/

/-- **A quoted table tells its names, but not whether the first of two is a schema.**  Two
references without the quoting mark have the same quoted text if and only if they are equal, or one
of them has as its database, with no schema, what the other has as its schema, with no database. -/
theorem quoted_tables_eq_iff {a b : TableRef} (ha : ∀ name ∈ a.parts, Unmarked name)
    (hb : ∀ name ∈ b.parts, Unmarked name) :
    ({} : Quoting).table a = ({} : Quoting).table b ↔
      a = b ∨ a.LiftsSchemaOf b ∨ b.LiftsSchemaOf a := by
  rw [← TableRef.parts_eq_iff]
  exact ⟨Quoting.delimited_names.inj ha hb,
    congrArg fun names : List Text => Text.join "." (names.map ({} : Quoting).identifier)⟩

/-- A dot inside a name is told from one between names, but a database in front of a table is quoted
like a schema. -/
theorem skipped_schema_quoted :
    ({} : Quoting).table (.parse "dw..orders") = ({} : Quoting).table (.parse "dw.orders") ∧
      ({} : Quoting).table (.make "orders" (some "dw.dbo") none) ≠
        ({} : Quoting).table (.parse "dw.dbo.orders") :=
  ⟨(quoted_tables_eq_iff (by decide) (by decide)).mpr (by decide),
    mt (quoted_tables_eq_iff (by decide) (by decide)).mp (by decide)⟩

/-- Two tables that are not the same have one quoted text, if a schema is left out between a
database and a table. -/
theorem quoted_text_not_injective :
    ¬ ∀ a b : TableRef, (∀ name ∈ a.parts ++ b.parts, Unmarked name) →
      (({} : Quoting).table a = ({} : Quoting).table b ↔ a = b) := by
  intro hall
  have heq : TableRef.parse "dw..orders" = TableRef.parse "dw.orders" :=
    (hall _ _ (by decide)).mp (by decide)
  exact absurd heq (by decide)

/-! ## Empty parts -/

namespace Text

theorem join_singleton (separator part : Text) : join separator [part] = part := by simp [join]

theorem join_eq_joined (parts : List Text) : join "." parts = joined (.char '.') parts := by
  induction parts with
  | nil => rfl
  | cons part parts ih =>
    cases parts with
    | nil => simp [join, joined]
    | cons next parts =>
      rw [joined, ← ih]
      · simp [join]
        rfl
      · simp

/-- The parts of a text make up the text. -/
theorem join_partsOf (t : Text) : join "." (partsOf (.char '.') t) = t := by
  rw [join_eq_joined, joined_partsOf]

/-- There is a dot behind the first part, if there are others. -/
theorem join_dot_cons (part : Text) {parts : List Text} (h : parts ≠ []) :
    join "." (part :: parts) = part ++ Symbol.char '.' :: join "." parts := by
  rw [join_eq_joined, join_eq_joined, joined]
  exact h

/-- A dotted text has the length of its parts and of the dots between them. -/
theorem length_join (parts : List Text) :
    (join "." parts).length = (parts.map List.length).sum + (parts.length - 1) := by
  induction parts with
  | nil => rfl
  | cons part parts ih =>
    cases parts with
    | nil => simp [join]
    | cons next parts =>
      rw [join_dot_cons part (List.cons_ne_nil _ _), List.length_append, List.length_cons, ih]
      simp only [List.map_cons, List.sum_cons, List.length_cons]
      omega

/-- Empty parts do not count for the length of the others. -/
theorem sum_length_filter (parts : List Text) :
    ((parts.filter fun p => !p.isEmpty).map List.length).sum = (parts.map List.length).sum := by
  induction parts with
  | nil => rfl
  | cons part parts ih =>
    cases part with
    | nil => simpa using ih
    | cons x part => simpa using ih

/-- **Leaving out an empty part always shows**, unless it is the only one: the text gets shorter by
the dot next to it. -/
theorem join_filter_eq_iff {parts : List Text} :
    join "." (parts.filter fun p => !p.isEmpty) = join "." parts ↔
      parts.length ≤ 1 ∨ ∀ p ∈ parts, p ≠ [] := by
  let kept := parts.filter fun p => !p.isEmpty
  have hsum : (kept.map List.length).sum = (parts.map List.length).sum := sum_length_filter parts
  constructor
  · intro h
    have hlength := congrArg List.length h
    rw [length_join, length_join] at hlength
    by_cases hparts : parts.length ≤ 1
    · exact .inl hparts
    · have hall : kept.length = parts.length := by
        simp only [kept] at hsum ⊢
        omega
      refine .inr fun p hp => ?_
      simpa using List.length_filter_eq_length_iff.mp hall p hp
  · rintro (hone | hall)
    · match parts, hone with
      | [], _ => rfl
      | [[]], _ => rfl
      | [x :: part], _ => rfl
    · rw [List.filter_eq_self.mpr]
      simpa using hall

end Text

/-! ## Dotted texts -/

namespace TableRef

/-- The dotted text can be read back: only the table behind a database and a schema may hold dots,
and only a table without qualifiers may be empty. -/
def IsReadBack (r : TableRef) : Prop :=
  match r.database, r.schema with
  | none, none => .char '.' ∉ r.table
  | none, some schema => .char '.' ∉ schema.text ∧ .char '.' ∉ r.table ∧ r.table ≠ []
  | some database, some schema =>
    .char '.' ∉ database.text ∧ .char '.' ∉ schema.text ∧ r.table ≠ []
  | some _, none => False

/-- The text is written again from what it was read as: none of the names in it is empty, unless it
is the only one. -/
def IsWrittenBack (t : Text) : Prop :=
  match partsOf (.char '.') t with
  | [] | [_] => True
  | [schema, table] => schema ≠ [] ∧ table ≠ []
  | database :: schema :: rest => database ≠ [] ∧ schema ≠ [] ∧ Text.join "." rest ≠ []

/-- The text of a reference holds its names as they were given, up to the empty ones. -/
theorem text_make (table : Text) (schema database : Option Text) :
    (make table schema database).text =
      Text.join "." ((database.toList ++ schema.toList ++ [table]).filter fun p => !p.isEmpty) := by
  simp only [text, make, parts, Qualifier.text_of?_toList, List.filter_append, List.filter_filter,
    Bool.and_self]

/-- A text is written again where leaving out the empty ones of its names does not show. -/
theorem text_parse_eq_iff (t : Text) : (parse t).text = t ↔ IsWrittenBack t := by
  have hkept {names : List Text} (hnames : Text.join "." names = t)
      (htext : (parse t).text = Text.join "." (names.filter fun p => !p.isEmpty)) :
      (parse t).text = t ↔ names.length ≤ 1 ∨ ∀ name ∈ names, name ≠ [] := by
    rw [htext, ← Text.join_filter_eq_iff, hnames]
  have ht := Text.join_partsOf t
  rcases h : partsOf (.char '.') t with _ | ⟨first, _ | ⟨second, _ | ⟨third, rest⟩⟩⟩ <;>
    rw [h] at ht
  · exact absurd h (partsOf_ne_nil _ _)
  · have htext := text_make first none none
    rw [← parse_of_one h] at htext
    rw [hkept ht htext, IsWrittenBack, h]
    simp
  · have htext := text_make second (some first) none
    rw [← parse_of_two h] at htext
    rw [hkept ht htext, IsWrittenBack, h]
    simp
  · have hjoin : Text.join "." [first, second, Text.join "." (third :: rest)] = t := by
      rw [← ht]
      simp [Text.join_dot_cons, Text.join_singleton]
    have htext := text_make (Text.join "." (third :: rest)) (some second) (some first)
    rw [← parse_of_more h] at htext
    rw [hkept hjoin htext, IsWrittenBack, h]
    simp

/-- What a text that is written again is read as can be read back. -/
theorem isReadBack_parse {t : Text} (h : IsWrittenBack t) : (parse t).IsReadBack := by
  have hdots : ∀ part ∈ partsOf (.char '.') t, .char '.' ∉ part :=
    fun _ hpart => not_mem_of_mem_partsOf hpart
  rw [IsWrittenBack] at h
  rcases hparts : partsOf (.char '.') t with _ | ⟨first, _ | ⟨second, _ | ⟨third, rest⟩⟩⟩ <;>
    rw [hparts] at h hdots
  · exact absurd hparts (partsOf_ne_nil _ _)
  · rw [parse_of_one hparts]
    exact hdots first (by simp)
  · obtain ⟨hschema, htable⟩ := h
    rw [parse_of_two hparts, make, Option.bind_some, Qualifier.of?_of_ne hschema]
    exact ⟨hdots first (by simp), hdots second (by simp), htable⟩
  · obtain ⟨hdatabase, hschema, htable⟩ := h
    rw [parse_of_more hparts, make, Option.bind_some, Option.bind_some,
      Qualifier.of?_of_ne hschema, Qualifier.of?_of_ne hdatabase]
    exact ⟨hdots first (by simp), hdots second (by simp), htable⟩

/-- A reference whose dotted text tells its names apart is read back from it. -/
theorem parse_text_of_isReadBack {r : TableRef} (h : r.IsReadBack) : parse r.text = r := by
  obtain ⟨table, schema, database⟩ := r
  cases database with
  | none =>
    cases schema with
    | none =>
      have htext : text ⟨table, none, none⟩ = table := by
        cases table with
        | nil => rfl
        | cons x table => simp [text, parts, Text.join_singleton]
      rw [htext, parse_of_one (partsOf_of_notMem h)]
      rfl
    | some schema =>
      obtain ⟨hschema, htable, hne⟩ := h
      have htext : text ⟨table, some schema, none⟩ = schema.text ++ .char '.' :: table := by
        simp [text, parts, schema.text_ne, hne, Text.join_dot_cons, Text.join_singleton]
      have hparts := partsOf_append_mark hschema table
      rw [partsOf_of_notMem htable] at hparts
      rw [htext, parse_of_two hparts]
      simp [make, Qualifier.of?_text]
  | some database =>
    cases schema with
    | none => exact h.elim
    | some schema =>
      obtain ⟨hdatabase, hschema, hne⟩ := h
      have htext : text ⟨table, some schema, some database⟩ =
          database.text ++ .char '.' :: (schema.text ++ .char '.' :: table) := by
        simp [text, parts, schema.text_ne, database.text_ne, hne, Text.join_dot_cons,
          Text.join_singleton]
      obtain ⟨part, rest, htable⟩ := List.exists_cons_of_ne_nil (partsOf_ne_nil (.char '.') table)
      have hparts := partsOf_append_mark hdatabase (schema.text ++ .char '.' :: table)
      rw [partsOf_append_mark hschema, htable] at hparts
      -- what is behind the second dot is the table again, dots and all
      have hjoin : Text.join "." (part :: rest) = table := htable ▸ Text.join_partsOf table
      rw [htext, parse_of_more hparts, hjoin]
      simp [make, Qualifier.of?_text]

end TableRef

/-- **What the dotted text keeps.**  A reference is read back from its text if and only if it has no
qualifiers and no dot in its table, or a schema without a dot and a table that is neither empty nor
holds a dot, or a database and a schema without dots and a table that is not empty.  A text is
written again from what it was read as if and only if it has one part, or two parts and neither is
empty, or more of which the first two are not empty, nor the rest together. -/
theorem dotted_text_faithful :
    (∀ r : TableRef, TableRef.parse r.text = r ↔ r.IsReadBack) ∧
      ∀ t : Text, (TableRef.parse t).text = t ↔ TableRef.IsWrittenBack t := by
  refine ⟨fun r => ⟨fun h => ?_, TableRef.parse_text_of_isReadBack⟩, TableRef.text_parse_eq_iff⟩
  -- a reference that is read back is what its text was read as, and that text is written again
  have hwritten : TableRef.IsWrittenBack r.text :=
    (TableRef.text_parse_eq_iff r.text).mp (congrArg TableRef.text h)
  exact h ▸ TableRef.isReadBack_parse hwritten

example : (TableRef.parse "dw..orders").text = "dw.orders" := by decide

end StagedLoad

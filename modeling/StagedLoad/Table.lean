import StagedLoad.Text
import StagedLoad.Text.Split

/-!
# Table names

A table name with a schema and a database, each of which may be missing.  A qualifier that is there
is never empty, so two names of the same table are equal.  In a statement a name stands between two
copies of the quoting mark as it is: nothing inside it is escaped.

* `TableRef.text` and `TableRef.parse` : the dotted text of a name, and the name that a dotted text
  stands for; dots beyond the second belong to the table.
* `Quoting.table` : the quoted names with dots between them.
-/

namespace StagedLoad

/-- The name of a schema or of a database: a text that is not empty. -/
structure Qualifier where
  text : Text
  text_ne : text ≠ []
deriving DecidableEq

/-- The qualifier with a text; an empty text is no qualifier. -/
def Qualifier.of? (t : Text) : Option Qualifier :=
  if h : t = [] then none else some ⟨t, h⟩

/-- The text of a qualifier is a qualifier. -/
theorem Qualifier.of?_text (q : Qualifier) : Qualifier.of? q.text = some q := by
  simp [Qualifier.of?, q.text_ne]

theorem Qualifier.of?_of_ne {t : Text} (h : t ≠ []) : Qualifier.of? t = some ⟨t, h⟩ := dif_neg h

/-- A text is kept as a qualifier unless it is empty. -/
theorem Qualifier.text_of?_toList (name : Option Text) :
    ((name.bind Qualifier.of?).map Qualifier.text).toList =
      name.toList.filter fun p => !p.isEmpty := by
  cases name with
  | none => rfl
  | some name =>
    cases name with
    | nil => rfl
    | cons x name => rfl

/-- Qualifiers with the same text are the same. -/
theorem Qualifier.text_inj {q q' : Qualifier} (h : q.text = q'.text) : q = q' := by
  obtain ⟨text, _⟩ := q
  obtain ⟨text', _⟩ := q'
  obtain rfl : text = text' := h
  rfl

/-- A table with the schema and the database that it is looked for in. -/
structure TableRef where
  table : Text
  schema : Option Qualifier
  database : Option Qualifier
deriving DecidableEq

namespace TableRef

/-- The reference with these names, where an empty qualifier is none. -/
def make (table : Text) (schema database : Option Text) : TableRef :=
  ⟨table, schema.bind Qualifier.of?, database.bind Qualifier.of?⟩

/-- Reads `table`, `schema.table` or `database.schema.table`. -/
def parse (name : Text) : TableRef :=
  match partsOf (.char '.') name with
  | [] => make name none none
  | [table] => make table none none
  | [schema, table] => make table (some schema) none
  | database :: schema :: rest => make (Text.join "." rest) (some schema) (some database)

section

variable {t first second third : Text} {rest : List Text}

/-- Without a dot the text is the table. -/
theorem parse_of_one (h : partsOf (.char '.') t = [first]) : parse t = make first none none := by
  rw [parse, h]

theorem parse_of_two (h : partsOf (.char '.') t = [first, second]) :
    parse t = make second (some first) none := by
  rw [parse, h]

/-- With two dots or more there are a schema and a database, and the rest is the table. -/
theorem parse_of_more (h : partsOf (.char '.') t = first :: second :: third :: rest) :
    parse t = make (Text.join "." (third :: rest)) (some second) (some first) := by
  rw [parse, h]

end

/-- Another table in the same schema. -/
def withTable (t : TableRef) (table : Text) : TableRef := { t with table }

/-- The names that are there, outermost first. -/
def parts (t : TableRef) : List Text :=
  (t.database.map Qualifier.text).toList ++ (t.schema.map Qualifier.text).toList ++ [t.table]

/-- The dotted text; an empty table name is left out. -/
def text (t : TableRef) : Text :=
  Text.join "." (t.parts.filter fun p => !p.isEmpty)

end TableRef

/-! ## Quoted names -/

/-- The mark around a quoted name. -/
structure Quoting where
  mark : Text := "\x22"
deriving DecidableEq, Repr

namespace Quoting

/-- A name between two marks. -/
def identifier (q : Quoting) (name : Text) : Text := q.mark ++ name ++ q.mark

/-- The names of a table reference, each quoted, with dots between them. -/
def table (q : Quoting) (t : TableRef) : Text := Text.join "." (t.parts.map q.identifier)

end Quoting

end StagedLoad

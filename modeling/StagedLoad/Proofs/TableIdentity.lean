import Mathlib.Data.List.Basic
import StagedLoad.Sql.Definition

/-!
# What tells tables apart

The same table is named in three ways: statements quote all of its names, the catalogue is asked for
its schema and its own name, and a renaming takes all of its names on Synapse, but schema and table
as one dotted name on SQL Server.  Names without dots can be told from a dotted name, so tables that
differ in schema or name are told apart everywhere; the database is part of quoted names only.

* `sourceName_inj` : a dotted name tells schema and table.
* `renames_tell_apart` : which tables a lookup and a renaming tell apart.
-/

namespace StagedLoad

namespace TableRef

/-- None of the names of the table holds a dot. -/
def IsDotFree (t : TableRef) : Prop := ∀ name ∈ t.parts, .char '.' ∉ name

instance (t : TableRef) : Decidable t.IsDotFree := inferInstanceAs (Decidable (∀ _ ∈ _, _))

theorem IsDotFree.table {t : TableRef} (h : t.IsDotFree) : .char '.' ∉ t.table :=
  h _ (by simp [parts])

theorem IsDotFree.schema {t : TableRef} (h : t.IsDotFree) {s : Qualifier}
    (hs : t.schema = some s) : .char '.' ∉ s.text :=
  h _ (by simp [parts, hs])

/-- The name of the table behind that of its schema, if it has one. -/
def sourceName (t : TableRef) : Text :=
  match t.schema with
  | none => t.table
  | some s => s.text ++ "." ++ t.table

/-- Tables without a schema are told by their names, which hold no dot. -/
theorem dot_mem_sourceName {t : TableRef} (h : t.IsDotFree) :
    .char '.' ∈ t.sourceName ↔ t.schema.isSome := by
  unfold sourceName
  cases hs : t.schema with
  | none => exact iff_of_false h.table Bool.false_ne_true
  | some s =>
    refine iff_of_true ?_ rfl
    have hdot : Symbol.char '.' ∈ Text.ofString "." := List.mem_singleton_self _
    exact List.mem_append_left _ (List.mem_append_right _ hdot)

/-- **A dotted name tells schema and table.** -/
theorem sourceName_inj {a b : TableRef} (ha : a.IsDotFree) (hb : b.IsDotFree) :
    a.sourceName = b.sourceName ↔ a.table = b.table ∧ a.schema = b.schema := by
  constructor
  · intro h
    have hdot : a.schema.isSome ↔ b.schema.isSome := by
      rw [← dot_mem_sourceName ha, h, dot_mem_sourceName hb]
    unfold sourceName at h
    cases hsa : a.schema with
    | none =>
      cases hsb : b.schema with
      | none =>
        rw [hsa, hsb] at h
        exact ⟨h, rfl⟩
      | some s' => simp [hsa, hsb] at hdot
    | some s =>
      cases hsb : b.schema with
      | none => simp [hsa, hsb] at hdot
      | some s' =>
        rw [hsa, hsb] at h
        dsimp only at h
        rw [List.append_assoc, List.append_assoc] at h
        have h : s.text ++ Symbol.char '.' :: a.table = s'.text ++ Symbol.char '.' :: b.table := h
        obtain ⟨htext, _, htable⟩ :=
          (List.append_cons_inj_of_notMem (ha.schema hsa) ha.table).mp h
        exact ⟨htable, congrArg some (Qualifier.text_inj htext)⟩
  · rintro ⟨htable, hschema⟩
    rw [sourceName, sourceName, htable, hschema]

end TableRef

/-- A renaming on SQL Server takes the dotted name. -/
theorem renameTableSql_sqlServer (q : Quoting) (source target : TableRef) :
    renameTableSql q .sqlServer source target =
      "EXEC sp_rename " ++ q.identifier source.sourceName ++ ", " ++ q.identifier target.table ++
        ", 'OBJECT'" := rfl

/-- A lookup tells schema and table: the schema is one of its parameters, if there is one. -/
theorem lookupSql_inj {a b : TableRef} (h : lookupSql a = lookupSql b) :
    a.table = b.table ∧ a.schema = b.schema := by
  have hparams (t : TableRef) :
      (lookupSql t).2 = (t.schema.map Qualifier.text).toList ++ [t.table] := by
    unfold lookupSql
    cases t.schema <;> rfl
  have hsame := congrArg Prod.snd h
  rw [hparams, hparams] at hsame
  obtain ⟨hschema, htable⟩ := List.append_inj' hsame rfl
  refine ⟨(List.cons.inj htable).1, ?_⟩
  have hschema := congrArg List.head? hschema
  rw [Option.head?_toList, Option.head?_toList] at hschema
  exact Option.map_injective (fun _ _ => Qualifier.text_inj) hschema

/-- **What lookups and renamings tell apart.**  On Synapse a renaming tells tables apart if and only
if their quoted names differ, on SQL Server if and only if they differ in schema or name; a lookup
tells apart all tables that differ in schema or name. -/
theorem renames_tell_apart {a b : TableRef} (ha : a.IsDotFree) (hb : b.IsDotFree) (q : Quoting) :
    (∀ t, renameTableSql q .synapse a t ≠ renameTableSql q .synapse b t ↔ q.table a ≠ q.table b) ∧
    (∀ t, renameTableSql q .sqlServer a t ≠ renameTableSql q .sqlServer b t ↔
      a.table ≠ b.table ∨ a.schema ≠ b.schema) ∧
    (a.table ≠ b.table ∨ a.schema ≠ b.schema → lookupSql a ≠ lookupSql b) := by
  refine ⟨fun t => not_congr ?_, fun t => ?_, ?_⟩
  · rw [renameTableSql, renameTableSql]
    simp only [List.append_assoc, List.append_cancel_left_eq, List.append_cancel_right_eq]
  · rw [← not_and_or, ← TableRef.sourceName_inj ha hb]
    refine not_congr ?_
    simp only [renameTableSql_sqlServer, Quoting.identifier, List.append_assoc,
      List.append_cancel_left_eq, List.append_cancel_right_eq]
  · rw [← not_and_or]
    exact fun hapart h => hapart (lookupSql_inj h)

/-- A table and one of the same name in a schema of the same database are told apart everywhere. -/
theorem schema_told_apart :
    let a := TableRef.make "orders" (some "sales") (some "dw")
    let b := TableRef.make "orders" none (some "dw")
    a.IsDotFree ∧ b.IsDotFree ∧
      (∀ p t, renameTableSql {} p a t ≠ renameTableSql {} p b t) ∧ lookupSql a ≠ lookupSql b := by
  intro a b
  have ha : a.IsDotFree := by decide
  have hb : b.IsDotFree := by decide
  have hapart : a.table ≠ b.table ∨ a.schema ≠ b.schema := .inr (by decide)
  obtain ⟨hsynapse, hsqlServer, hlookup⟩ := renames_tell_apart ha hb {}
  refine ⟨ha, hb, ?_, hlookup hapart⟩
  intro p t
  cases p with
  | synapse => exact (hsynapse t).mpr (by decide)
  | sqlServer => exact (hsqlServer t).mpr hapart

/-- Tables that differ in their databases alone are quoted differently, but neither looked up nor
renamed differently. -/
theorem databases_not_told_apart :
    ¬ ∀ (q : Quoting) (a b : TableRef),
      (∀ name ∈ a.parts ++ b.parts, name ≠ [] ∧ .char '.' ∉ name ∧ ¬ q.mark <:+: name) →
      q.table a ≠ q.table b →
      lookupSql a ≠ lookupSql b ∧ ∀ p t, renameTableSql q p a t ≠ renameTableSql q p b t := by
  intro hall
  let a := TableRef.make "orders" (some "dbo") (some "one")
  let b := TableRef.make "orders" (some "dbo") (some "two")
  have hnames : ∀ name ∈ a.parts ++ b.parts,
      name ≠ [] ∧ .char '.' ∉ name ∧ ¬ ({} : Quoting).mark <:+: name := by decide
  have hquoted : ({} : Quoting).table a ≠ ({} : Quoting).table b := by decide
  exact (hall {} a b hnames hquoted).1 rfl

end StagedLoad

import StagedLoad.Proofs.Commit
import StagedLoad.Proofs.Definition

/-!
# Statements that last

A statement lasts if it is executed with auto-commit on, or if a commit that is accepted comes after
it.  What does not last is lost when the connection is closed, for closing commits nothing.
Creating and replacing a table end with a commit where one is necessary.  Dropping a table does not,
for a replacement drops its target in the middle of its transaction: the drop lasts because of the
guard on Synapse, or because auto-commit was on anyway, and not otherwise.

* `Session.Calls.onExecute_of_guard` : what a guard on Synapse executes lasts.
* `Task.leavesNothing` : a table that was created or replaced is there for good.
* `definitions_last` : which definitions last, and exactly when a drop does.
-/

namespace StagedLoad

variable {σ α : Type}

/-! ## What lasts -/

/-- The statement of the call lasts: it was executed with auto-commit on, or a commit was accepted
among the calls behind it. -/
def Lasts (e : Event) (after : List Event) : Prop :=
  e.mode.truth = true ∨ ∃ c ∈ after, c.call = .commit ∧ c.fault = none

/-- Every statement among the calls lasts. -/
def NothingPending (es : List Event) : Prop :=
  ∀ before e after q, es = before ++ e :: after → e.call = .execute q → Lasts e after

/-- If the call executes the statement, then with auto-commit on. -/
def OnExecute (q : Query) (e : Event) : Prop := e.call = .execute q → e.mode.truth = true

/-- With auto-commit on nothing is pending. -/
theorem NothingPending.of_on {es : List Event} (h : ∀ e ∈ es, ∀ q, OnExecute q e) :
    NothingPending es :=
  fun _ e _ q hes hq => .inl (h e (mem_of_split hes) q hq)

/-- A commit at the end makes all statements before it last. -/
theorem NothingPending.of_commit {es : List Event} {c : Event} (hcommit : c.call = .commit)
    (haccepted : c.fault = none) : NothingPending (es ++ [c]) := by
  intro before e after q hes hq
  -- The commit is the last call, so it is either the statement itself or behind it.
  rcases List.eq_nil_or_concat after with rfl | ⟨rest, last, rfl⟩
  · obtain ⟨_, hlast⟩ := List.append_inj' hes rfl
    obtain rfl : c = e := List.singleton_inj.mp hlast
    cases hcommit.symm.trans hq
  · rw [List.concat_eq_append, ← List.cons_append, ← List.append_assoc] at hes
    obtain ⟨_, hlast⟩ := List.append_inj' hes rfl
    obtain rfl : c = last := List.singleton_inj.mp hlast
    exact .inr ⟨c, by simp, hcommit, haccepted⟩

theorem mem_executed {es : List Event} {e : Event} {q : Query} (he : e ∈ es)
    (hq : e.call = .execute q) : q ∈ executed es :=
  List.mem_filterMap.mpr ⟨e, he, by rw [hq]; rfl⟩

section

variable [Driver σ] {w : Writer}

/-- What a guard on Synapse executes, it executes with auto-commit on. -/
theorem Session.Calls.onExecute_of_guard (hw : w.product = .synapse) {m : Session σ α}
    (hm : Guarded w m) : (w.inAutoCommit m).Calls fun e => ∀ q, OnExecute q e := by
  refine (Writer.meets_inAutoCommit hw (Session.StaysOn.of_guarded hm)).mono ?_
  intro s es r s' haround e he q hq
  obtain ⟨before, after, hes⟩ := List.append_of_mem he
  exact (haround.switchedOn hes hq).1

/-- With auto-commit on from the beginning, all statements last. -/
theorem Guarded.nothingPending_of_on {m : Session σ α} (hm : Guarded w m) {s : Link σ}
    (hon : s.autoCommit.truth = true) : NothingPending (m.issued s) := by
  obtain ⟨_, hcalls⟩ := (Session.StaysOn.of_guarded hm).issued s hon
  exact .of_on fun e he _ _ => (hcalls e he).1

end

/-! ## Creations and replacements -/

namespace Task

/-- Whether the task creates a table or replaces one. -/
def isConstruction : Task → Bool
  | createTable .. => true
  | replaceTable .. => true
  | _ => false

variable [Driver σ] {w : Writer} {t : Task}

/-- On Synapse a construction is in a guard as a whole. -/
theorem onExecute_of_isConstruction (hw : w.product = .synapse) (h : t.isConstruction = true) :
    (t.perform w : Session σ Answer).Calls fun e => ∀ q, OnExecute q e := by
  cases t with
  | createTable t sch tableConstraint tableOption =>
    have hguard := Session.Calls.onExecute_of_guard (σ := σ) hw (.plain (.createTableAs w.quoting
      w.product.columnType t sch tableConstraint tableOption))
    exact Session.Calls.bind (.bind (.of_silent (.say _ _ _)) fun _ => hguard) fun _ =>
      .of_silent (.pure _)
  | replaceTable source target postSql =>
    have hguard := Session.Calls.onExecute_of_guard (σ := σ) hw
      (.replaceBody w source target postSql)
    exact Session.Calls.bind (.bind (.of_silent (.say _ _ _)) fun _ => hguard) fun _ =>
      .of_silent (.pure _)
  | _ => cases h

/-- **A construction that ends well leaves nothing pending.**  On Synapse it runs with auto-commit
on, and elsewhere it commits in the end if that is necessary. -/
theorem leavesNothing (h : t.isConstruction = true) {s : Link σ}
    (hok : ((t.perform w).outcome s).isOk = true) : NothingPending ((t.perform w).issued s) := by
  cases hw : w.product with
  | synapse => exact .of_on ((onExecute_of_isConstruction hw h).issued s)
  | sqlServer =>
    cases hmode : s.autoCommit.truth with
    | true => exact (t.perform_guarded w).nothingPending_of_on hmode
    | false =>
      have htransaction : t.isTransaction w.product = true := by
        cases t with
        | createTable _ _ _ _ => exact beq_iff_eq.mpr hw
        | replaceTable _ _ _ => exact beq_iff_eq.mpr hw
        | _ => cases h
      have hwhole := (commitsLast_of_isTransaction htransaction).issued s hmode
      obtain ⟨before, c, hes, hcommit, haccepted⟩ := hwhole.success hok
      rw [hes]
      exact .of_commit hcommit haccepted

end Task

/-! ## Drops -/

/-- The statement that drops the table. -/
def Writer.dropQuery (w : Writer) (t : TableRef) : Query := { sql := dropTableSql w.quoting t }

section

variable [Driver σ] {w : Writer} {t : TableRef}

/-- A lookup has parameters, a drop has none. -/
theorem Writer.dropQuery_ne_lookup (w : Writer) (t t' : TableRef) :
    w.dropQuery t ≠ (Statement.lookup t').query := by
  intro h
  have hparams : [] = (lookupSql t').2.map Value.text := congrArg Query.params h
  unfold lookupSql at hparams
  cases hschema : t'.schema <;> simp [hschema] at hparams

/-- On Synapse the statement that drops a table is executed with auto-commit on, whether or not the
table was looked up before. -/
theorem Session.Calls.onExecute_dropTable (hw : w.product = .synapse) (t' : TableRef) :
    (w.dropTable t' : Session σ Unit).Calls (OnExecute (w.dropQuery t)) :=
  (onExecute_of_guard hw (.working w (Working.run _).discard)).mono fun h e he => h e he _

/-- On Synapse a drop of what is there is granted auto-commit first. -/
theorem Session.Calls.onExecute_dropTableIfExists (hw : w.product = .synapse) (t' : TableRef) :
    (w.dropTableIfExists t' : Session σ Unit).Calls (OnExecute (w.dropQuery t)) := by
  have hlookup : (tableExists t' : Session σ Bool).Calls (OnExecute (w.dropQuery t)) := by
    refine (Session.Follows.tableExists t').mono ?_
    intro s es r s' hfollowed e he hq
    have hmem := hfollowed.beginning.subset (mem_executed he hq)
    exact absurd (List.mem_singleton.mp hmem) (w.dropQuery_ne_lookup t t')
  refine hlookup.bind fun found => ?_
  cases found with
  | false => exact .of_silent (.pure ())
  | true => exact onExecute_dropTable hw t'

/-- The task drops the table: without asking, or because a lookup finds it. -/
def Task.Drops (s : Link σ) (t : TableRef) : Task → Prop
  | .dropTable t' => t' = t
  | .dropTableIfExists t' => t' = t ∧ s.finds t = true
  | _ => False

namespace Task.Drops

variable {s : Link σ} {task : Task}

/-- The drop is a statement of the plan. -/
theorem mem_plan (h : task.Drops s t) :
    w.dropQuery t ∈ (task.plan w s).map Statement.query := by
  cases task with
  | dropTable t' =>
    cases h
    exact List.mem_singleton_self _
  | dropTableIfExists t' =>
    obtain ⟨rfl, hfound⟩ := h
    show _ ∈ (w.dropIfExistsPlan s t').map Statement.query
    rw [Writer.dropIfExistsPlan, hfound]
    exact List.mem_cons_of_mem _ (List.mem_singleton_self _)
  | _ => cases h

/-- On Synapse the drop is executed with auto-commit on. -/
theorem onExecute (hw : w.product = .synapse) (h : task.Drops s t) :
    (task.perform w : Session σ Answer).Calls (OnExecute (w.dropQuery t)) := by
  cases task with
  | dropTable t' =>
    exact (Session.Calls.onExecute_dropTable hw t').bind fun _ => .of_silent (.pure _)
  | dropTableIfExists t' =>
    exact (Session.Calls.onExecute_dropTableIfExists hw t').bind fun _ => .of_silent (.pure _)
  | _ => cases h

/-- On SQL Server a drop is work like any other: it has no guard and no commit. -/
theorem working (hw : w.product = .sqlServer) (h : task.Drops s t) :
    Working (task.perform w : Session σ Answer) := by
  cases task with
  | dropTable t' =>
    have hdrop : Working (w.dropTable t' : Session σ Unit) := by
      rw [Writer.dropTable, Writer.inAutoCommit_of_sqlServer hw]
      exact (Working.run _).discard
    exact hdrop.bind fun _ => .pure _
  | dropTableIfExists t' => exact (Working.dropTableIfExists hw t').bind fun _ => .pure _
  | _ => cases h

end Task.Drops

/-- **What a definition leaves pending.**  Let a definition end well, with any driver and on any
link.  A creation or a replacement leaves no statement pending.  A drop executes its statement, and
this lasts exactly if the product is Synapse or auto-commit was on before: otherwise it is neither
executed with auto-commit on nor followed by a commit, and closing the connection commits nothing
either. -/
theorem definitions_last (w : Writer) (task : Task) (s : Link σ)
    (hok : ((task.perform w).outcome s).isOk = true) :
    (task.isConstruction = true → NothingPending ((task.perform w).issued s)) ∧
    (∀ t, task.Drops s t →
      w.dropQuery t ∈ executed ((task.perform w).issued s) ∧
      ∀ before e after, (task.perform w).issued s = before ++ e :: after →
        e.call = .execute (w.dropQuery t) →
        (Lasts e after ↔ w.product = .synapse ∨ s.autoCommit.truth = true)) ∧
    ∀ closing : Link σ, ∀ e ∈ (closeSession w.owned : Session σ Unit).issued closing,
      e.call ≠ .commit := by
  refine ⟨fun h => Task.leavesNothing h hok, ?_, ?_⟩
  · intro t hdrops
    obtain ⟨a, ha⟩ : ∃ a, (task.perform w).outcome s = .ok a := by
      cases hr : (task.perform w).outcome s with
      | ok a => exact ⟨a, rfl⟩
      | error e => rw [hr] at hok; cases hok
    refine ⟨?_, ?_⟩
    · rw [((task.perform_follows w).issued s).complete a ha]
      exact hdrops.mem_plan
    · intro before e after hes hq
      have he : e ∈ (task.perform w).issued s := mem_of_split hes
      cases hw : w.product with
      | synapse =>
        have hon := (hdrops.onExecute hw).issued s e he hq
        exact iff_of_true (.inl hon) (.inl rfl)
      | sqlServer =>
        -- Without a guard the mode stays what it was, and nothing in a drop commits.
        have hworking := hdrops.working (w := w) hw
        have hmode := ((Session.Steady.of_working hworking).issued s).2 e he
        have hopen := (Session.Calls.uncommitted_of_working hworking).issued s
        have hnone : ¬ ∃ c ∈ after, c.call = .commit ∧ c.fault = none := by
          rintro ⟨c, hc, hcommit, _⟩
          refine hopen c ?_ hcommit
          rw [hes]
          exact List.mem_append_right _ (List.mem_cons_of_mem _ hc)
        simp [Lasts, hmode.2, hnone]
  · intro closing
    refine (Session.Calls.perform (c := if w.owned then .ownerClose else .close) ?_).issued closing
    intro mode fault
    cases w.owned with
    | true => exact nofun
    | false => exact nofun

end

/-- A table that is found is dropped on Synapse, though the link has auto-commit off. -/
theorem found_table_dropped_for_good :
    let w : Writer := { product := .synapse }
    let t : TableRef := .make "orders" (some "dbo") none
    let task : Task := .dropTableIfExists t
    let s : Link Script := { driver := { rows := [some [.int 1]] } }
    ((task.perform w).outcome s).isOk = true ∧ task.Drops s t ∧
      ∃ before e after, (task.perform w).issued s = before ++ e :: after ∧
        e.call = .execute { sql := "DROP TABLE \x22dbo\x22.\x22orders\x22" } ∧ Lasts e after := by
  intro w t task s
  have hdrops : task.Drops s t := ⟨rfl, rfl⟩
  have hlasts := ((definitions_last w task s rfl).2.1 t hdrops).2
  let before : List Event := [⟨.cursor, .bool false, none⟩,
    ⟨.execute (Statement.lookup t).query, .bool false, none⟩, ⟨.fetchOne, .bool false, none⟩,
    ⟨.closeCursor, .bool false, none⟩, ⟨.setAutoCommit true, .bool false, none⟩,
    ⟨.cursor, .bool true, none⟩]
  have hissued : (task.perform w).issued s =
      before ++ ⟨.execute (w.dropQuery t), .bool true, none⟩ ::
        [⟨.closeCursor, .bool true, none⟩, ⟨.setAutoCommit false, .bool true, none⟩] := rfl
  exact ⟨rfl, hdrops, _, _, _, hissued, rfl, (hlasts _ _ _ hissued rfl).mpr (.inl rfl)⟩

/-- **A drop can be lost.**  On SQL Server with auto-commit off a table is dropped and the
connection is closed.  Both end well, the drop is executed with auto-commit off, and nothing is ever
committed. -/
theorem drop_lost_on_close :
    let task : Task := .dropTable (.make "t" none none)
    let s : Link Script := { driver := {} }
    let run := stages (Step.perform {}) [.task task, .close] s
    (run.map fun st => st.outcome.isOk) = [true, true] ∧
    (∃ st ∈ run, ∃ before e after, st.events = before ++ e :: after ∧
      e.call = .execute { sql := "DROP TABLE \x22t\x22" } ∧ ¬ Lasts e after) ∧
    ∀ st ∈ run, ∀ e ∈ st.events, e.call ≠ .commit := by
  intro task s run
  let drop : Event := ⟨.execute { sql := "DROP TABLE \x22t\x22" }, .bool false, none⟩
  have hevents : run.map Stage.events =
      [[⟨.cursor, .bool false, none⟩, drop, ⟨.closeCursor, .bool false, none⟩],
        [⟨.close, .bool false, none⟩]] := rfl
  have hdropped := List.head_eq_of_cons_eq hevents
  refine ⟨rfl, ⟨_, List.mem_cons_self, [_], drop, _, hdropped, rfl, ?_⟩, ?_⟩
  · rintro (hon | ⟨c, hc, hcommit, _⟩)
    · cases hon
    · rw [List.mem_singleton.mp hc] at hcommit
      cases hcommit
  · have hcalls : ∀ es ∈ run.map Stage.events, ∀ e ∈ es, e.call ≠ .commit := by
      rw [hevents]
      simp [drop]
    intro st hst
    exact hcalls _ (List.mem_map_of_mem hst)

end StagedLoad

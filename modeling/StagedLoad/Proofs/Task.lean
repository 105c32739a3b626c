import StagedLoad.Proofs.Contract
import StagedLoad.Writer.Collect

/-!
# Tasks and runs

A task is an operation of a writer with all that it is given; a run carries out tasks one after the
other, whether or not those before have failed.  A step of a block is a task, a change of the mode,
the end of the connection, or a block itself.

Every task is put together from a few kinds of sessions only: statements on cursors, commits, silent
steps, sequences of these, and guards around them.  What holds of all such sessions holds of all
tasks.  The kinds are nested: on an open cursor, working, plain, guarded.

* `Task.perform_guarded` : every task is put together this way.
* `forall_stages` : what holds of an operation on every link holds of it in every run.
-/

namespace StagedLoad

/-- An operation of a writer with all that it is given. -/
inductive Task where
  | createTable (t : TableRef) (s : Schema) (tableConstraint tableOption : Option Text)
  | dropTable (t : TableRef)
  | dropTableIfExists (t : TableRef)
  | replaceTable (source target : TableRef) (postSql : Option Text)
  | collectInsert (sources : List TableRef) (s : Schema) (target : TableRef) (truncateFirst : Bool)
      (preSql postSql : Option Text)
  | collectMerge (sources : List TableRef) (s : Schema) (target : TableRef) (m : MergeSpec)
      (strategy : MergeStrategy) (preSql postSql : Option Text)
  | load (c : OutputSettings) (sources : List TableRef) (s : Schema)
  | tableExists (t : TableRef)
  | execute (q : Query)
  | fetchOne (q : Query)
  | commitIfNecessary

/-- What an operation answers. -/
inductive Answer where
  | nothing
  | flag (b : Bool)
  | count (n : Int)
  | row (r : Option (List Value))
  | counts (r : CollectResult)
  | all (answers : List Answer)

/-- A step of a block; a block is a guard or a session that is closed in the end. -/
inductive Step where
  | task (t : Task)
  | setAutoCommit (on : Bool)
  | close
  | guard (steps : List Step)
  | withSession (steps : List Step)

section

variable {σ : Type} [Driver σ]

/-- Carries out a task. -/
def Task.perform (w : Writer) : Task → Session σ Answer
  | createTable t s tableConstraint tableOption => do
    w.createTable t s tableConstraint tableOption
    return .nothing
  | dropTable t => do
    w.dropTable t
    return .nothing
  | dropTableIfExists t => do
    w.dropTableIfExists t
    return .nothing
  | replaceTable source target postSql => do
    w.replaceTable source target postSql
    return .nothing
  | collectInsert sources s target truncateFirst preSql postSql => do
    return .count (← w.collectInsert sources s target truncateFirst preSql postSql)
  | collectMerge sources s target m strategy preSql postSql => do
    return .counts (← w.collectMerge sources s target m strategy preSql postSql)
  | load c sources s => do
    return .counts (← w.load c sources s)
  | tableExists t => do
    return .flag (← StagedLoad.tableExists t)
  | execute q => do
    return .count (← StagedLoad.execute q)
  | fetchOne q => do
    return .row (← StagedLoad.fetchOne q)
  | commitIfNecessary => do
    StagedLoad.commitIfNecessary
    return .nothing

mutual

/-- Carries out a step; the first failure inside a block ends the block. -/
def Step.perform (w : Writer) : Step → Session σ Answer
  | .task t => t.perform w
  | .setAutoCommit on => do
    StagedLoad.setAutoCommit on
    return .nothing
  | .close => do
    closeSession w.owned
    return .nothing
  | .guard steps => w.inAutoCommit do return .all (← Step.performAll w steps)
  | .withSession steps => StagedLoad.withSession w.owned do return .all (← Step.performAll w steps)

/-- Carries out steps in order up to the first failure. -/
def Step.performAll (w : Writer) : List Step → Session σ (List Answer)
  | [] => return []
  | step :: steps => do
    let answer ← Step.perform w step
    return answer :: (← Step.performAll w steps)

end

end

/-! ## The phases of a load -/

section

variable {σ : Type} [Driver σ] (w : Writer)

/-- A load up to its collect phase: the target is created if it is missing. -/
def Writer.prepare (c : OutputSettings) (s : Schema) : Session σ Unit := do
  if !(← tableExists c.target) then
    w.createTable c.target s c.tableConstraint c.tableOption

/-- The collect phase of a load. -/
def Writer.collect (c : OutputSettings) (sources : List TableRef) (s : Schema) :
    Session σ CollectResult :=
  match c.merge with
  | none => do
    let inserted ← w.collectInsert sources s c.target false c.beforeLoad c.afterLoad
    return { inserted }
  | some m => w.collectMerge sources s c.target m.spec m.strategy c.beforeLoad c.afterLoad

/-- **A load is its two phases**, one after the other. -/
theorem Writer.load_eq (c : OutputSettings) (sources : List TableRef) (s : Schema) :
    (w.load c sources s : Session σ CollectResult) =
      w.prepare c s >>= fun _ => w.collect c sources s := by
  unfold Writer.load Writer.prepare
  rw [bind_assoc]
  congr 1
  funext found
  cases found with
  | false => rfl
  | true => exact (pure_bind () fun _ => w.collect c sources s).symm

end

/-! ## Runs -/

section

variable {σ ι α : Type}

/-- One operation of a run: what was done, the link it started on, the calls that it made, how it
ended, and the link that it left. -/
structure Stage (σ ι α : Type) where
  act : ι
  before : Link σ
  events : List Event
  outcome : Except Failure α
  after : Link σ

/-- An operation carried out on a link. -/
def stage (perform : ι → Session σ α) (a : ι) (s : Link σ) : Stage σ ι α where
  act := a
  before := s
  events := (perform a).issued s
  outcome := (perform a).outcome s
  after := (perform a).after s

/-- Operations carried out one after the other, whether or not those before have failed. -/
def stages (perform : ι → Session σ α) : List ι → Link σ → List (Stage σ ι α)
  | [], _ => []
  | a :: as, s => stage perform a s :: stages perform as ((perform a).after s)

/-- The link that a run leaves. -/
def finish (perform : ι → Session σ α) : List ι → Link σ → Link σ
  | [], s => s
  | a :: as, s => finish perform as ((perform a).after s)

/-- What holds of an operation on every link holds of it in every run. -/
theorem forall_stages {perform : ι → Session σ α} {P : Stage σ ι α → Prop}
    (h : ∀ a s, P (stage perform a s)) (as : List ι) (s : Link σ) :
    ∀ st ∈ stages perform as s, P st := by
  induction as generalizing s with
  | nil =>
      intro st hst
      cases hst
  | cons a as ih =>
      intro st hst
      rcases List.mem_cons.mp hst with rfl | hst
      · exact h a s
      · exact ih _ st hst

/-- The calls of a run are those of its operations, one after the other. -/
theorem trace_finish {perform : ι → Session σ α}
    (h : ∀ a s, ((perform a).after s).trace = s.trace ++ (perform a).issued s) (as : List ι)
    (s : Link σ) :
    (finish perform as s).trace = s.trace ++ ((stages perform as s).map Stage.events).flatten := by
  induction as generalizing s with
  | nil => exact (List.append_nil _).symm
  | cons a as ih =>
    calc (finish perform as ((perform a).after s)).trace
        = ((perform a).after s).trace ++
            ((stages perform as ((perform a).after s)).map Stage.events).flatten := ih _
      _ = s.trace ++ ((stages perform (a :: as) s).map Stage.events).flatten := by
          rw [h, List.append_assoc]
          rfl

end

/-! ## How sessions are put together -/

section

variable {σ : Type} [Driver σ]

/-- What is done on an open cursor. -/
inductive OnCursor : {α : Type} → Session σ α → Prop where
  | silent {α : Type} {m : Session σ α} (hm : m.Silent) : OnCursor m
  | execute (q : Query) : OnCursor (perform (.execute q))
  | fetchOne : OnCursor (perform .fetchOne)
  | bind {α β : Type} {m : Session σ α} {k : α → Session σ β} (hm : OnCursor m)
      (hk : ∀ a, OnCursor (k a)) : OnCursor (m >>= k)

/-- Sessions of cursors. -/
inductive Working : {α : Type} → Session σ α → Prop where
  | silent {α : Type} {m : Session σ α} (hm : m.Silent) : Working m
  | withCursor {α : Type} {m : Session σ α} (hm : OnCursor m) : Working (withCursor m)
  | bind {α β : Type} {m : Session σ α} {k : α → Session σ β} (hm : Working m)
      (hk : ∀ a, Working (k a)) : Working (m >>= k)

/-- Sessions of cursors and of commits where necessary. -/
inductive Plain : {α : Type} → Session σ α → Prop where
  | working {α : Type} {m : Session σ α} (hm : Working m) : Plain m
  | commitIfNecessary : Plain commitIfNecessary
  | bind {α β : Type} {m : Session σ α} {k : α → Session σ β} (hm : Plain m)
      (hk : ∀ a, Plain (k a)) : Plain (m >>= k)
  /-- A session whose faults are logged. -/
  | reporting {α : Type} {m : Session σ α} (severity : Severity) (message : Text)
      (context : Fault → Context) (hm : Plain m) :
      Plain (m.observing fun f s => s.log severity message (context f))

/-- Sessions with parts that run in the guard of the writer. -/
inductive Guarded (w : Writer) : {α : Type} → Session σ α → Prop where
  | plain {α : Type} {m : Session σ α} (hm : Plain m) : Guarded w m
  | bind {α β : Type} {m : Session σ α} {k : α → Session σ β} (hm : Guarded w m)
      (hk : ∀ a, Guarded w (k a)) : Guarded w (m >>= k)
  | guard {α : Type} {m : Session σ α} (hm : Guarded w m) : Guarded w (w.inAutoCommit m)

/-- A statement is carried out on an open cursor. -/
theorem OnCursor.carryOut (q : Query) : OnCursor (carryOut q : Session σ Int) :=
  (execute q).bind fun _ => .silent (.takeRowCount _)

namespace Working

theorem pure {α : Type} (a : α) : Working (Pure.pure a : Session σ α) := .silent (.pure a)

theorem say (severity : Severity) (message : Text) (context : Context) :
    Working (say severity message context : Session σ Unit) := .silent (.say _ _ _)

/-- The answer of a working session may be left unread. -/
theorem discard {α : Type} {m : Session σ α} (hm : Working m) :
    Working (Functor.discard m) := by
  rw [Session.discard_eq_bind]
  exact hm.bind fun _ => .pure ()

/-- A statement opens a cursor of its own. -/
theorem execute (q : Query) : Working (execute q : Session σ Int) :=
  (say _ _ _).bind fun _ => .withCursor (.carryOut q)

/-- A query has a cursor of its own, and its row is fetched on the same cursor. -/
theorem fetchOne (q : Query) : Working (fetchOne q : Session σ (Option (List Value))) := by
  refine (say _ _ _).bind fun _ => .withCursor ?_
  rw [Session.discard_eq_bind]
  exact ((OnCursor.carryOut q).bind fun _ => .silent (.pure ())).bind fun _ =>
    OnCursor.fetchOne.bind fun _ => .silent .takeRow

theorem run (sql : Text) : Working (run sql : Session σ Int) := .execute _

/-- A statement that may be missing is work: there is one statement or nothing. -/
theorem runPresent (sql : Option Text) : Working (runPresent sql : Session σ Unit) := by
  cases sql with
  | none => exact .pure ()
  | some sql =>
    simp only [StagedLoad.runPresent]
    split
    · exact .pure ()
    · exact (run sql).discard

/-- Tallied statements are work, by induction on their list. -/
theorem runTallied (statements : List (Tally × Text)) (r : CollectResult) :
    Working (runTallied statements r : Session σ CollectResult) := by
  induction statements generalizing r with
  | nil => exact .pure r
  | cons statement statements ih => exact (run statement.2).bind fun _ => ih _

/-- The lookup of a table is one query. -/
theorem tableExists (t : TableRef) : Working (tableExists t : Session σ Bool) :=
  (fetchOne _).bind fun _ => .pure _

end Working

namespace Plain

theorem pure {α : Type} (a : α) : Plain (Pure.pure a : Session σ α) := .working (.pure a)

theorem say (severity : Severity) (message : Text) (context : Context) :
    Plain (say severity message context : Session σ Unit) := .working (.say _ _ _)

/-- A creation is a statement and the commit after it. -/
theorem createTableAs (q : Quoting) (typeOf : Column → Text) (t : TableRef) (s : Schema)
    (tableConstraint tableOption : Option Text) :
    Plain (createTableAs q typeOf t s tableConstraint tableOption : Session σ Unit) :=
  (working (Working.run _).discard).bind fun _ => .commitIfNecessary

/-- An insertion is a few statements and the commit after them. -/
theorem collectInsert (w : Writer) (sources : List TableRef) (s : Schema) (target : TableRef)
    (truncateFirst : Bool) (preSql postSql : Option Text) :
    Plain (w.collectInsert sources s target truncateFirst preSql postSql : Session σ Int) := by
  have hrest : Plain (w.collectInsert sources s target false preSql postSql : Session σ Int) :=
    (working (.runPresent preSql)).bind fun _ => (working (.run _)).bind fun _ =>
      (working (.runPresent postSql)).bind fun _ => commitIfNecessary.bind fun _ =>
        (say _ _ _).bind fun _ => .pure _
  cases truncateFirst with
  | false => exact hrest
  | true => exact (working (Working.run _).discard).bind fun _ => hrest

/-- A merge is a few statements and the commit after them, whatever the strategy. -/
theorem collectMerge (w : Writer) (sources : List TableRef) (s : Schema) (target : TableRef)
    (m : MergeSpec) (strategy : MergeStrategy) (preSql postSql : Option Text) :
    Plain (w.collectMerge sources s target m strategy preSql postSql :
      Session σ CollectResult) := by
  refine (say _ _ _).bind fun _ => .bind (reporting _ _ _ ?_) fun _ => (say _ _ _).bind fun _ =>
    .pure _
  exact (working (.runPresent preSql)).bind fun _ => (working (.runTallied _ _)).bind fun _ =>
    (working (.runPresent postSql)).bind fun _ => commitIfNecessary.bind fun _ => .pure _

/-- The collect phase of a load is an insertion or a merge. -/
theorem collect (w : Writer) (c : OutputSettings) (sources : List TableRef) (s : Schema) :
    Plain (w.collect c sources s : Session σ CollectResult) := by
  unfold Writer.collect
  cases c.merge with
  | none => exact (collectInsert w _ _ _ _ _ _).bind fun _ => .pure _
  | some m => exact collectMerge w _ _ _ _ _ _ _

end Plain

namespace Guarded

variable (w : Writer)

/-- Working sessions need no guard. -/
theorem working {α : Type} {m : Session σ α} (hm : Working m) : Guarded w m :=
  .plain (.working hm)

/-- A creation is a plain session in the guard. -/
theorem createTable (t : TableRef) (s : Schema) (tableConstraint tableOption : Option Text) :
    Guarded w (w.createTable t s tableConstraint tableOption : Session σ Unit) :=
  .bind (working w (.say _ _ _)) fun _ => .guard (.plain (.createTableAs _ _ _ _ _ _))

/-- A drop is one statement in the guard. -/
theorem dropTable (t : TableRef) : Guarded w (w.dropTable t : Session σ Unit) :=
  .guard (working w (Working.run _).discard)

/-- The lookup is outside of the guard, the drop inside. -/
theorem dropTableIfExists (t : TableRef) :
    Guarded w (w.dropTableIfExists t : Session σ Unit) := by
  refine .bind (working w (.tableExists t)) fun found => ?_
  cases found with
  | false => exact working w (.pure ())
  | true => exact dropTable w t

/-- The body of a replacement: it has a guard inside. -/
theorem replaceBody (source target : TableRef) (postSql : Option Text) :
    Guarded w (do
      w.dropTableIfExists target
      Functor.discard (run (renameTableSql w.quoting w.product source target))
      runPresent postSql
      commitIfNecessary : Session σ Unit) :=
  .bind (dropTableIfExists w target) fun _ => .bind (working w (Working.run _).discard) fun _ =>
    .bind (working w (.runPresent postSql)) fun _ => .plain .commitIfNecessary

/-- A replacement is a guard around the renaming, with the drop in a guard inside. -/
theorem replaceTable (source target : TableRef) (postSql : Option Text) :
    Guarded w (w.replaceTable source target postSql : Session σ Unit) :=
  .bind (working w (.say _ _ _)) fun _ => .guard (replaceBody w source target postSql)

/-- Before the collect phase there are a lookup and, for a missing target, a creation. -/
theorem prepare (c : OutputSettings) (s : Schema) :
    Guarded w (w.prepare c s : Session σ Unit) := by
  refine .bind (working w (.tableExists c.target)) fun found => ?_
  cases found with
  | false => exact createTable w _ _ _ _
  | true => exact working w (.pure ())

/-- A load is put together from guarded parts. -/
theorem load (c : OutputSettings) (sources : List TableRef) (s : Schema) :
    Guarded w (w.load c sources s : Session σ CollectResult) := by
  rw [w.load_eq]
  exact .bind (prepare w c s) fun _ => .plain (.collect w c sources s)

end Guarded

/-- **Every task is put together from guarded parts.** -/
theorem Task.perform_guarded (w : Writer) (t : Task) :
    Guarded w (t.perform w : Session σ Answer) := by
  have hdone : ∀ a : Answer, Guarded w (Pure.pure a : Session σ Answer) :=
    fun a => .plain (.pure a)
  cases t with
  | createTable t s tableConstraint tableOption =>
    exact (Guarded.createTable w t s tableConstraint tableOption).bind fun _ => hdone _
  | dropTable t => exact (Guarded.dropTable w t).bind fun _ => hdone _
  | dropTableIfExists t => exact (Guarded.dropTableIfExists w t).bind fun _ => hdone _
  | replaceTable source target postSql =>
    exact (Guarded.replaceTable w source target postSql).bind fun _ => hdone _
  | collectInsert sources s target truncateFirst preSql postSql =>
    exact (Guarded.plain (.collectInsert w _ _ _ _ _ _)).bind fun _ => hdone _
  | collectMerge sources s target m strategy preSql postSql =>
    exact (Guarded.plain (.collectMerge w _ _ _ _ _ _ _)).bind fun _ => hdone _
  | load c sources s => exact (Guarded.load w c sources s).bind fun _ => hdone _
  | tableExists t => exact (Guarded.working w (.tableExists t)).bind fun _ => hdone _
  | execute q => exact (Guarded.working w (.execute q)).bind fun _ => hdone _
  | fetchOne q => exact (Guarded.working w (.fetchOne q)).bind fun _ => hdone _
  | commitIfNecessary => exact (Guarded.plain .commitIfNecessary).bind fun _ => hdone _

end

end StagedLoad

import StagedLoad.Proofs.Mode

/-!
# Plans

The statements that an operation has carried out are known before it starts, up to one answer:
whether a table that it looks up is in the catalogue.  A plan is the list of these statements in
order, each with what it is for.  A session follows a plan if what it executes is a beginning of the
plan, and the whole plan if it succeeds.

* `Task.plan` : the plan of a task on a link.
* `Session.Follows.bind` : plans are put together as sessions are.
* `Session.Follows.inAutoCommit` : a guard executes nothing of its own.
-/

namespace StagedLoad

variable {σ α β : Type}

/-! ## Statements and plans -/

/-- What a statement is for. -/
inductive Part where
  /-- It looks up a table. -/
  | lookup
  /-- It creates, drops or renames a table. -/
  | definition
  /-- It belongs to the collection of staging rows. -/
  | collect
  | other
deriving DecidableEq

/-- A statement of a plan. -/
structure Statement where
  part : Part
  query : Query

namespace Statement

/-- A statement without parameters. -/
def ofSql (part : Part) (sql : Text) : Statement := ⟨part, { sql }⟩

/-- A statement that is left out if it is missing or empty. -/
def optional (part : Part) : Option Text → List Statement
  | none => []
  | some [] => []
  | some (c :: cs) => [ofSql part (c :: cs)]

/-- The lookup of a table. -/
def lookup (t : TableRef) : Statement :=
  ⟨.lookup, { sql := (lookupSql t).1, params := (lookupSql t).2.map Value.text }⟩

end Statement

section

variable [Driver σ]

/-- Whether the lookup of a table answers, on this link, that the table is there. -/
def Link.finds (s : Link σ) (t : TableRef) : Bool :=
  match (tableExists t).outcome s with
  | .ok found => found
  | .error _ => false

namespace Writer

variable (w : Writer)

/-- The link on which the body of a guard starts. -/
def entered (s : Link σ) : Link σ :=
  match w.product with
  | .sqlServer => s
  | .synapse => (setAutoCommit true).after s

/-- The plan of a creation. -/
def createPlan (t : TableRef) (sch : Schema) (tableConstraint tableOption : Option Text) :
    List Statement :=
  [.ofSql .definition
    (createTableSql w.quoting w.product.columnType t sch tableConstraint tableOption)]

/-- The plan of a drop. -/
def dropPlan (t : TableRef) : List Statement := [.ofSql .definition (dropTableSql w.quoting t)]

/-- The plan of a drop of what is there. -/
def dropIfExistsPlan (s : Link σ) (t : TableRef) : List Statement :=
  .lookup t :: if s.finds t then w.dropPlan t else []

/-- The plan of a replacement, on the link on which its guard starts its body. -/
def replacePlan (s : Link σ) (source target : TableRef) (postSql : Option Text) : List Statement :=
  w.dropIfExistsPlan s target ++
    (.ofSql .definition (renameTableSql w.quoting w.product source target) ::
      Statement.optional .other postSql)

/-- The plan of an insertion. -/
def insertPlan (sources : List TableRef) (sch : Schema) (target : TableRef) (truncateFirst : Bool)
    (preSql postSql : Option Text) : List Statement :=
  (if truncateFirst then [.ofSql .collect (deleteAllSql w.quoting target)] else []) ++
    (Statement.optional .collect preSql ++
      (.ofSql .collect (appendSql w.quoting sources sch target) ::
        Statement.optional .collect postSql))

/-- The plan of a merge. -/
def mergePlan (sources : List TableRef) (sch : Schema) (target : TableRef) (m : MergeSpec)
    (strategy : MergeStrategy) (preSql postSql : Option Text) : List Statement :=
  Statement.optional .collect preSql ++
    ((mergeStatements w.quoting strategy sources sch target m).map
        (fun st => .ofSql .collect st.2) ++
      Statement.optional .collect postSql)

/-- The plan of the collect phase of a load. -/
def collectPlan (c : OutputSettings) (sources : List TableRef) (sch : Schema) : List Statement :=
  match c.merge with
  | none => w.insertPlan sources sch c.target false c.beforeLoad c.afterLoad
  | some m =>
    w.mergePlan sources sch c.target ⟨m.keys, m.rule⟩ m.strategy c.beforeLoad c.afterLoad

/-- The plan of a load up to its collect phase. -/
def preparePlan (s : Link σ) (c : OutputSettings) (sch : Schema) : List Statement :=
  .lookup c.target ::
    if s.finds c.target then [] else w.createPlan c.target sch c.tableConstraint c.tableOption

end Writer

/-- The statements of a task that starts on the link, in order. -/
def Task.plan (w : Writer) (s : Link σ) : Task → List Statement
  | createTable t sch tableConstraint tableOption => w.createPlan t sch tableConstraint tableOption
  | dropTable t => w.dropPlan t
  | dropTableIfExists t => w.dropIfExistsPlan s t
  | replaceTable source target postSql => w.replacePlan (w.entered s) source target postSql
  | collectInsert sources sch target truncateFirst preSql postSql =>
    w.insertPlan sources sch target truncateFirst preSql postSql
  | collectMerge sources sch target m strategy preSql postSql =>
    w.mergePlan sources sch target m strategy preSql postSql
  | load c sources sch => w.preparePlan s c sch ++ w.collectPlan c sources sch
  | tableExists t => [.lookup t]
  | execute q => [⟨.other, q⟩]
  | fetchOne q => [⟨.other, q⟩]
  | commitIfNecessary => []

end

/-! ## Following a plan -/

/-- The statement that a call executes. -/
def Call.query? : Call → Option Query
  | .execute q => some q
  | _ => none

/-- The statements that were given to the driver, in order. -/
def executed (es : List Event) : List Query := es.filterMap fun e => e.call.query?

theorem executed_append (es₁ es₂ : List Event) :
    executed (es₁ ++ es₂) = executed es₁ ++ executed es₂ := List.filterMap_append

/-- A beginning of the plan was executed, and the whole plan if the session succeeded. -/
structure Followed (plan : List Statement) (es : List Event) (r : Except Failure α) : Prop where
  beginning : executed es <+: plan.map Statement.query
  complete : ∀ a, r = .ok a → executed es = plan.map Statement.query

/-- The session follows the plan that it has on the link it starts on. -/
def Session.Follows (m : Session σ α) (plan : Link σ → List Statement) : Prop :=
  m.Meets fun s es r _ => Followed (plan s) es r

namespace Session.Follows

/-- A silent session executes nothing. -/
theorem of_silent {m : Session σ α} (hm : m.Silent) : m.Follows fun _ => [] :=
  Meets.of_silent hm fun _ _ => ⟨List.prefix_rfl, fun _ _ => rfl⟩

/-- **Plans are put together as sessions are.**  The plan of what follows may depend on the answer
of what came before. -/
theorem bind {m : Session σ α} {k : α → Session σ β} {p₁ p : Link σ → List Statement}
    {p₂ : α → Link σ → List Statement} (hm : m.Follows p₁) (hk : ∀ a, (k a).Follows (p₂ a))
    (hstopped : ∀ s e, m.outcome s = .error e → p₁ s <+: p s)
    (hcontinued : ∀ s a, m.outcome s = .ok a → p s = p₁ s ++ p₂ a (m.after s)) :
    (m >>= k).Follows p := by
  refine Meets.bind hm.exactly (fun a => hk a) ?_ ?_
  · intro s es e s' hfirst
    obtain ⟨hfollowed, hr, _⟩ := hfirst
    refine ⟨hfollowed.beginning.trans ((hstopped s e hr.symm).map _), ?_⟩
    intro _ h
    cases h
  · intro s es₁ a mid es₂ r s' hfirst h₂
    obtain ⟨hfollowed, hr, rfl⟩ := hfirst
    rw [hcontinued s a hr.symm]
    refine ⟨?_, ?_⟩
    · rw [executed_append, hfollowed.complete a rfl, List.map_append]
      exact (List.prefix_append_right_inj _).mpr h₂.beginning
    · intro b hb
      rw [executed_append, hfollowed.complete a rfl, h₂.complete b hb, List.map_append]

/-- A session with a plan, and one with a fixed plan after it. -/
theorem append {m : Session σ α} {k : α → Session σ β} {p₁ : Link σ → List Statement}
    {p₂ : List Statement} (hm : m.Follows p₁) (hk : ∀ a, (k a).Follows fun _ => p₂) :
    (m >>= k).Follows fun s => p₁ s ++ p₂ :=
  bind hm hk (fun _ _ _ => List.prefix_append _ _) fun _ _ _ => rfl

/-- What comes after a plan may execute nothing. -/
theorem bind_silent {m : Session σ α} {k : α → Session σ β} {p : Link σ → List Statement}
    (hm : m.Follows p) (hk : ∀ a, (k a).Follows fun _ => []) : (m >>= k).Follows p :=
  bind hm hk (fun _ _ _ => List.prefix_rfl) fun _ _ _ => (List.append_nil _).symm

/-- What comes before a fixed plan may execute nothing. -/
theorem silent_bind {m : Session σ α} {k : α → Session σ β} {p : List Statement}
    (hm : m.Follows fun _ => []) (hk : ∀ a, (k a).Follows fun _ => p) :
    (m >>= k).Follows fun _ => p :=
  append hm hk

/-- A clean-up may execute nothing. -/
theorem ensuring {m : Session σ α} {cleanup : Session σ Unit} {p : Link σ → List Statement}
    (hm : m.Follows p) (hc : cleanup.Follows fun _ => []) : (m.ensuring cleanup).Follows p := by
  have hnone : ∀ {es₁ es₂ : List Event} {r : Except Failure Unit}, Followed [] es₂ r →
      executed (es₁ ++ es₂) = executed es₁ := by
    intro es₁ es₂ r h
    rw [executed_append, List.prefix_nil.mp h.beginning, List.append_nil]
  refine Meets.ensuring hm hc ?_ ?_
  · intro s es₁ r mid es₂ s' h₁ h₂
    refine ⟨?_, ?_⟩
    · rw [hnone h₂]
      exact h₁.beginning
    · intro a ha
      rw [hnone h₂]
      exact h₁.complete a ha
  · intro s es₁ r mid es₂ e s' h₁ h₂
    refine ⟨?_, ?_⟩
    · rw [hnone h₂]
      exact h₁.beginning
    · intro a ha
      cases ha

variable [Driver σ]

/-- A call that is no statement executes nothing. -/
theorem perform {c : Call} (hc : c.query? = none) :
    (perform c : Session σ Unit).Follows fun _ => [] := by
  refine (meets_perform c).mono ?_
  intro s es r s' hcall
  obtain ⟨fault, rfl, _, _⟩ := hcall
  have hnone : executed [⟨c, s.autoCommit, fault⟩] = [] := by simp [executed, hc]
  exact ⟨by rw [hnone]; exact List.prefix_rfl, fun _ _ => hnone⟩

/-- One statement on an open cursor. -/
theorem carryOut (part : Part) (q : Query) :
    (carryOut q : Session σ Int).Follows fun _ => [⟨part, q⟩] := by
  refine bind_silent ?_ fun _ => of_silent (.takeRowCount q.sql)
  refine (meets_perform (.execute q)).mono ?_
  intro s es r s' hcall
  obtain ⟨fault, rfl, _, _⟩ := hcall
  exact ⟨List.prefix_rfl, fun _ _ => rfl⟩

/-- To open and to close a cursor is to execute nothing. -/
theorem withCursor {m : Session σ α} {p : List Statement} (hm : m.Follows fun _ => p) :
    (withCursor m).Follows fun _ => p :=
  silent_bind (perform rfl) fun _ => hm.ensuring (perform rfl)

/-- One statement on a cursor of its own. -/
theorem execute (part : Part) (q : Query) :
    (execute q : Session σ Int).Follows fun _ => [⟨part, q⟩] :=
  silent_bind (of_silent (.say _ _ _)) fun _ => (carryOut part q).withCursor

omit [Driver σ] in
/-- The answer has no part in the plan. -/
theorem discard {m : Session σ α} {p : Link σ → List Statement} (hm : m.Follows p) :
    (Functor.discard m).Follows p := by
  rw [discard_eq_bind]
  exact hm.bind_silent fun _ => of_silent (.pure ())

/-- A query is one statement; its row is no other one. -/
theorem fetchOne (part : Part) (q : Query) :
    (fetchOne q : Session σ (Option (List Value))).Follows fun _ => [⟨part, q⟩] := by
  refine silent_bind (of_silent (.say _ _ _)) fun _ => withCursor ?_
  exact (carryOut part q).discard.bind_silent fun _ => (perform rfl).bind_silent fun _ =>
    of_silent .takeRow

theorem run (part : Part) (sql : Text) :
    (run sql : Session σ Int).Follows fun _ => [.ofSql part sql] := execute part _

theorem runPresent (part : Part) (sql : Option Text) :
    (runPresent sql : Session σ Unit).Follows fun _ => Statement.optional part sql := by
  rcases sql with _ | _ | ⟨c, cs⟩
  · exact of_silent (.pure ())
  · exact of_silent (.pure ())
  · exact (run part (c :: cs)).discard

/-- Tallied statements are executed in their order, by induction on their list. -/
theorem runTallied (part : Part) (statements : List (Tally × Text)) (r : CollectResult) :
    (runTallied statements r : Session σ CollectResult).Follows
      fun _ => statements.map fun st => .ofSql part st.2 := by
  induction statements generalizing r with
  | nil => exact of_silent (.pure r)
  | cons statement statements ih => exact (run part statement.2).append fun _ => ih _

/-- A commit is no statement. -/
theorem commitIfNecessary :
    (commitIfNecessary : Session σ Unit).Follows fun _ => [] := by
  refine silent_bind (of_silent .getAutoCommit) fun on => ?_
  cases on with
  | false => exact perform rfl
  | true => exact of_silent (.pure ())

/-- The lookup of a table is one statement. -/
theorem tableExists (t : TableRef) :
    (tableExists t : Session σ Bool).Follows fun _ => [.lookup t] :=
  (fetchOne .lookup _).bind_silent fun _ => of_silent (.pure _)

theorem setAutoCommit (on : Bool) : (setAutoCommit on : Session σ Unit).Follows fun _ => [] := by
  refine (meets_setAutoCommit on).mono ?_
  intro s es r s' hset
  obtain ⟨fault, rfl, _⟩ := hset
  exact ⟨List.prefix_rfl, fun _ _ => rfl⟩

/-- **A guard executes nothing of its own.**  It follows the plan of its body on the link on which
the body starts. -/
theorem inAutoCommit {w : Writer} {m : Session σ α} {p : Link σ → List Statement}
    (hm : m.Follows p) : (w.inAutoCommit m).Follows fun s => p (w.entered s) := by
  unfold Writer.inAutoCommit Writer.entered
  cases w.product with
  | sqlServer => exact hm
  | synapse =>
    have hbody : (do StagedLoad.setAutoCommit true; m : Session σ α).Follows
        fun s => p ((StagedLoad.setAutoCommit true).after s) :=
      (setAutoCommit true).bind (fun _ => hm) (fun _ _ _ => List.nil_prefix) fun _ _ _ => rfl
    exact (of_silent .getAutoCommit).bind (fun before => hbody.ensuring (setAutoCommit before))
      (fun _ _ _ => List.nil_prefix) fun _ _ _ => rfl

end Session.Follows

/-! ## Lookups -/

/-- The driver alone decides how the session ends and what becomes of the driver. -/
def Session.Blind (m : Session σ α) : Prop :=
  ∀ s s', s.driver = s'.driver →
    m.outcome s = m.outcome s' ∧ (m.after s).driver = (m.after s').driver

namespace Session.Blind

/-- Blind sessions in sequence are blind. -/
theorem bind {m : Session σ α} {k : α → Session σ β} (hm : m.Blind) (hk : ∀ a, (k a).Blind) :
    (m >>= k).Blind := by
  intro s s' h
  obtain ⟨hr, hd⟩ := hm s s' h
  simp only [outcome, after] at hr hd ⊢
  cases hs' : m.outcome s' with
  | error e =>
    rw [bind_of_error (hr.trans hs'), bind_of_error hs']
    exact ⟨rfl, hd⟩
  | ok a =>
    rw [bind_of_ok (hr.trans hs'), bind_of_ok hs']
    exact hk a _ _ hd

/-- A blind body with a blind clean-up is blind. -/
theorem ensuring {m : Session σ α} {cleanup : Session σ Unit} (hm : m.Blind)
    (hc : cleanup.Blind) : (m.ensuring cleanup).Blind := by
  intro s s' h
  obtain ⟨hr, hd⟩ := hm s s' h
  obtain ⟨hr₂, hd₂⟩ := hc _ _ hd
  cases hs' : cleanup.outcome (m.after s') with
  | error e =>
    simp only [outcome, after] at hr hd hr₂ hd₂ ⊢
    rw [ensuring_of_error (hr₂.trans hs'), ensuring_of_error hs']
    exact ⟨rfl, hd₂⟩
  | ok u =>
    simp only [outcome, after] at hr hd hr₂ hd₂ ⊢
    rw [ensuring_of_ok (hr₂.trans hs'), ensuring_of_ok hs']
    exact ⟨hr, hd₂⟩

theorem pure (a : α) : (Pure.pure a : Session σ α).Blind := fun _ _ h => ⟨rfl, h⟩

theorem say (severity : Severity) (message : Text) (context : Context) :
    (say severity message context : Session σ Unit).Blind := fun _ _ h => ⟨rfl, h⟩

variable [Driver σ]

/-- What becomes of a call is the driver's choice. -/
theorem perform (c : Call) : (perform c : Session σ Unit).Blind := by
  intro s s' h
  simp only [outcome, after, StagedLoad.perform]
  rw [h]
  rcases Driver.attempt c s'.driver with ⟨_ | f, d⟩
  · exact ⟨rfl, rfl⟩
  · exact ⟨rfl, rfl⟩

theorem takeRowCount (sql : Text) : (takeRowCount sql : Session σ Int).Blind := by
  intro s s' h
  simp only [outcome, after, StagedLoad.takeRowCount, h, and_self]

theorem takeRow : (takeRow : Session σ (Option (List Value))).Blind := by
  intro s s' h
  simp only [outcome, after, StagedLoad.takeRow, h, and_self]

/-- What a lookup answers is the driver's choice. -/
theorem tableExists (t : TableRef) : (tableExists t : Session σ Bool).Blind := by
  have hfetch : ∀ q, (fetchOne q : Session σ (Option (List Value))).Blind := by
    intro q
    refine (say _ _ _).bind fun _ => (perform _).bind fun _ => ensuring ?_ (perform _)
    rw [discard_eq_bind]
    exact (((perform _).bind fun _ => takeRowCount _).bind fun _ => pure ()).bind fun _ =>
      (perform _).bind fun _ => takeRow
  exact (hfetch _).bind fun _ => pure _

theorem setAutoCommit (on : Bool) : (setAutoCommit on : Session σ Unit).Blind :=
  (say _ _ _).bind fun _ => (perform _).bind fun _ => fun _ _ h => ⟨rfl, h⟩

end Session.Blind

section

variable [Driver σ]

/-- What a lookup answered is what it finds on that link. -/
theorem Link.finds_of_ok {s : Link σ} {t : TableRef} {found : Bool}
    (h : (tableExists t).outcome s = .ok found) : s.finds t = found := by
  rw [Link.finds, h]

/-- A message does not change what a lookup answers in a guard. -/
theorem Writer.finds_entered_log (w : Writer) (s : Link σ) (t : TableRef) (severity : Severity)
    (message : Text) (context : Context) :
    (w.entered (s.log severity message context)).finds t = (w.entered s).finds t := by
  have hdriver : (w.entered (s.log severity message context)).driver = (w.entered s).driver := by
    unfold Writer.entered
    cases w.product with
    | sqlServer => rfl
    | synapse => exact (Session.Blind.setAutoCommit true (s.log severity message context) s rfl).2
  unfold Link.finds
  rw [(Session.Blind.tableExists t _ _ hdriver).1]

/-- So it does not change the plan of a replacement either. -/
theorem Writer.replacePlan_entered_log (w : Writer) (s : Link σ) (source target : TableRef)
    (postSql : Option Text) (severity : Severity) (message : Text) (context : Context) :
    w.replacePlan (w.entered (s.log severity message context)) source target postSql =
      w.replacePlan (w.entered s) source target postSql := by
  rw [replacePlan, dropIfExistsPlan, finds_entered_log]
  rfl

end

/-! ## The plans of the tasks -/

namespace Session.Follows

variable [Driver σ] (w : Writer)

/-- A creation executes its plan, and then commits. -/
theorem createTableAs (t : TableRef) (sch : Schema) (tableConstraint tableOption : Option Text) :
    (createTableAs w.quoting w.product.columnType t sch tableConstraint tableOption :
      Session σ Unit).Follows fun _ => w.createPlan t sch tableConstraint tableOption :=
  (run .definition _).discard.bind_silent fun _ => commitIfNecessary

/-- The guard of a creation adds nothing to its plan. -/
theorem createTable (t : TableRef) (sch : Schema) (tableConstraint tableOption : Option Text) :
    (w.createTable t sch tableConstraint tableOption : Session σ Unit).Follows
      fun _ => w.createPlan t sch tableConstraint tableOption :=
  silent_bind (of_silent (.say _ _ _)) fun _ => (createTableAs w _ _ _ _).inAutoCommit

/-- The guard of a drop adds nothing to its plan. -/
theorem dropTable (t : TableRef) :
    (w.dropTable t : Session σ Unit).Follows fun _ => w.dropPlan t :=
  (run .definition _).discard.inAutoCommit

/-- What comes after a lookup follows the plan that the answer calls for. -/
theorem lookup_bind {t : TableRef} {k : Bool → Session σ β} {p : Bool → List Statement}
    (hk : ∀ found, (k found).Follows fun _ => p found) :
    (StagedLoad.tableExists t >>= k).Follows fun s => .lookup t :: p (s.finds t) := by
  refine (tableExists t).bind hk ?_ ?_
  · intro s e _
    exact List.prefix_append [Statement.lookup t] _
  · intro s found hfound
    rw [Link.finds_of_ok hfound]
    rfl

/-- Whether there is a drop behind the lookup depends on its answer. -/
theorem dropTableIfExists (t : TableRef) :
    (w.dropTableIfExists t : Session σ Unit).Follows fun s => w.dropIfExistsPlan s t := by
  refine lookup_bind (p := fun found => if found then w.dropPlan t else []) ?_
  intro found
  cases found with
  | false => exact of_silent (.pure ())
  | true => exact dropTable w t

/-- The body of a replacement. -/
theorem replaceBody (source target : TableRef) (postSql : Option Text) :
    (do w.dropTableIfExists target
        Functor.discard (StagedLoad.run (renameTableSql w.quoting w.product source target))
        StagedLoad.runPresent postSql
        StagedLoad.commitIfNecessary : Session σ Unit).Follows
      fun s => w.replacePlan s source target postSql :=
  (dropTableIfExists w target).append fun _ =>
    (run .definition _).discard.append fun _ =>
      (runPresent .other postSql).bind_silent fun _ => commitIfNecessary

/-- The lookup of a replacement is in its guard, so its answer is that on the entered link. -/
theorem replaceTable (source target : TableRef) (postSql : Option Text) :
    (w.replaceTable source target postSql : Session σ Unit).Follows
      fun s => w.replacePlan (w.entered s) source target postSql := by
  refine (of_silent (.say _ _ _)).bind (fun _ => (replaceBody w source target postSql).inAutoCommit)
    (fun _ _ _ => List.nil_prefix) ?_
  intro s _ _
  exact (w.replacePlan_entered_log s source target postSql _ _ _).symm

/-- An insertion executes its plan, and then commits. -/
theorem collectInsert (sources : List TableRef) (sch : Schema) (target : TableRef)
    (truncateFirst : Bool) (preSql postSql : Option Text) :
    (w.collectInsert sources sch target truncateFirst preSql postSql : Session σ Int).Follows
      fun _ => w.insertPlan sources sch target truncateFirst preSql postSql := by
  have hrest : (w.collectInsert sources sch target false preSql postSql : Session σ Int).Follows
      fun _ => w.insertPlan sources sch target false preSql postSql :=
    (runPresent .collect preSql).append fun _ => (run .collect _).append fun _ =>
      (runPresent .collect postSql).bind_silent fun _ => commitIfNecessary.bind_silent fun _ =>
        of_silent (.say _ _ _) |>.bind_silent fun _ => of_silent (.pure _)
  cases truncateFirst with
  | false => exact hrest
  | true => exact (run .collect _).discard.append fun _ => hrest

/-- A merge executes its plan, and then commits. -/
theorem collectMerge (sources : List TableRef) (sch : Schema) (target : TableRef) (m : MergeSpec)
    (strategy : MergeStrategy) (preSql postSql : Option Text) :
    (w.collectMerge sources sch target m strategy preSql postSql :
      Session σ CollectResult).Follows
      fun _ => w.mergePlan sources sch target m strategy preSql postSql := by
  refine silent_bind (of_silent (.say _ _ _)) fun _ => bind_silent (Meets.observing ?_
    (fun _ _ => rfl) fun h => h) fun _ => (of_silent (.say _ _ _)).bind_silent fun _ =>
      of_silent (.pure _)
  exact (runPresent .collect preSql).append fun _ => (runTallied .collect _ _).append fun _ =>
    (runPresent .collect postSql).bind_silent fun _ => commitIfNecessary.bind_silent fun _ =>
      of_silent (.pure _)

/-- A load creates its target only if the lookup did not find it. -/
theorem prepare (c : OutputSettings) (sch : Schema) :
    (w.prepare c sch : Session σ Unit).Follows fun s => w.preparePlan s c sch := by
  refine lookup_bind (p := fun found =>
    if found then [] else w.createPlan c.target sch c.tableConstraint c.tableOption) ?_
  intro found
  cases found with
  | false => exact createTable w _ _ _ _
  | true => exact of_silent (.pure ())

/-- The collect phase of a load is an insertion or a merge, by its settings. -/
theorem collect (c : OutputSettings) (sources : List TableRef) (sch : Schema) :
    (w.collect c sources sch : Session σ CollectResult).Follows
      fun _ => w.collectPlan c sources sch := by
  unfold Writer.collect Writer.collectPlan
  cases c.merge with
  | none => exact (collectInsert w _ _ _ _ _ _).bind_silent fun _ => of_silent (.pure _)
  | some m => exact collectMerge w _ _ _ _ _ _ _

end Session.Follows

/-- **Every task follows its plan.** -/
theorem Task.perform_follows [Driver σ] (w : Writer) (t : Task) :
    (t.perform w : Session σ Answer).Follows fun s => t.plan w s := by
  have hdone : ∀ a : Answer, (pure a : Session σ Answer).Follows fun _ => [] :=
    fun a => .of_silent (.pure a)
  cases t with
  | createTable t sch tableConstraint tableOption =>
    exact (Session.Follows.createTable w _ _ _ _).bind_silent fun _ => hdone _
  | dropTable t => exact (Session.Follows.dropTable w t).bind_silent fun _ => hdone _
  | dropTableIfExists t =>
    exact (Session.Follows.dropTableIfExists w t).bind_silent fun _ => hdone _
  | replaceTable source target postSql =>
    exact (Session.Follows.replaceTable w _ _ _).bind_silent fun _ => hdone _
  | collectInsert sources sch target truncateFirst preSql postSql =>
    exact (Session.Follows.collectInsert w _ _ _ _ _ _).bind_silent fun _ => hdone _
  | collectMerge sources sch target m strategy preSql postSql =>
    exact (Session.Follows.collectMerge w _ _ _ _ _ _ _).bind_silent fun _ => hdone _
  | load c sources sch =>
    have hload : (w.load c sources sch : Session σ CollectResult).Follows
        fun s => w.preparePlan s c sch ++ w.collectPlan c sources sch := by
      rw [w.load_eq]
      exact (Session.Follows.prepare w c sch).append fun _ => .collect w c sources sch
    exact hload.bind_silent fun _ => hdone _
  | tableExists t => exact (Session.Follows.tableExists t).bind_silent fun _ => hdone _
  | execute q => exact (Session.Follows.execute .other q).bind_silent fun _ => hdone _
  | fetchOne q => exact (Session.Follows.fetchOne .other q).bind_silent fun _ => hdone _
  | commitIfNecessary => exact Session.Follows.commitIfNecessary.bind_silent fun _ => hdone _

end StagedLoad

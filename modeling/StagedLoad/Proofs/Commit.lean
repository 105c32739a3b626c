import StagedLoad.Proofs.AutoCommit
import StagedLoad.Proofs.Plan

/-!
# Commits

With auto-commit off, the statements of an operation are one transaction: they are committed by one
call, the last one, which is made after all of them were carried out.  An operation that fails
leaves nothing committed.  With auto-commit on, and in the guard of Synapse, there is nothing to
commit.

* `AllOrNothing` : what is committed when an operation ends.
* `Session.CommitsLast.bind` : work put in front of a transaction becomes a part of it.
* `Task.commits_as_a_whole` : which tasks are one transaction, and which commit nothing.
-/

namespace StagedLoad

variable {σ α β : Type}

/-- **All or nothing.**  A commit is the last call, and is made only after the whole plan was
carried out with nothing refused.  What ends well has committed, and what fails has committed
nothing. -/
structure AllOrNothing (plan : List Statement) (es : List Event) (r : Except Failure α) : Prop where
  last : ∀ before e after, es = before ++ e :: after → e.call = .commit →
    after = [] ∧ executed before = plan.map Statement.query ∧ ∀ x ∈ before, x.fault = none
  success : r.isOk = true →
    ∃ before e, es = before ++ [e] ∧ e.call = .commit ∧ e.fault = none
  failure : r.isOk = false → ∀ e ∈ es, e.call = .commit → e.fault ≠ none

namespace AllOrNothing

/-- A transaction that failed before its commit. -/
theorem stopped {plan : List Statement} {es : List Event} {e : Failure}
    (h : ∀ x ∈ es, x.call ≠ .commit) : AllOrNothing plan es (.error e : Except Failure α) where
  last _ x _ hes hx := absurd hx (h x (mem_of_split hes))
  success hok := by cases hok
  failure _ x hx hcommit := absurd hcommit (h x hx)

/-- The commit alone. -/
theorem commit {mode : Value} {fault : Option Fault} {r : Except Failure α}
    (hr : r.isOk = true ↔ fault = none) : AllOrNothing [] [⟨.commit, mode, fault⟩] r where
  last before e after hes _ := by
    rcases List.cons_eq_append_iff.mp hes with ⟨rfl, hrest⟩ | ⟨front, rfl, hrest⟩
    · obtain ⟨rfl, rfl⟩ := List.cons.inj hrest
      exact ⟨rfl, rfl, fun _ hx => nomatch hx⟩
    · simp at hrest
  success hok := ⟨[], _, rfl, rfl, hr.mp hok⟩
  failure hfail e he _ hfault := by
    rw [List.mem_singleton.mp he] at hfault
    rw [hr.mpr hfault] at hfail
    cases hfail

/-- **Work in front of a transaction becomes a part of it**, if all of it was carried out. -/
theorem prepend {p₁ p₂ : List Statement} {es₁ es₂ : List Event} {r : Except Failure α}
    (hdone : executed es₁ = p₁.map Statement.query) (haccepted : ∀ x ∈ es₁, x.fault = none)
    (hopen : ∀ x ∈ es₁, x.call ≠ .commit) (h : AllOrNothing p₂ es₂ r) :
    AllOrNothing (p₁ ++ p₂) (es₁ ++ es₂) r where
  last before e after hes he := by
    rcases append_split hes with ⟨rest, hfirst⟩ | ⟨front, rfl, hrest⟩
    · exact absurd he (hopen e (mem_of_split hfirst))
    · obtain ⟨hafter, hexecuted, hfront⟩ := h.last front e after hrest he
      refine ⟨hafter, ?_, ?_⟩
      · rw [executed_append, hdone, hexecuted, List.map_append]
      · exact List.forall_mem_append.mpr ⟨haccepted, hfront⟩
  success hok := by
    obtain ⟨before, e, rfl, he, hfault⟩ := h.success hok
    exact ⟨es₁ ++ before, e, (List.append_assoc _ _ _).symm, he, hfault⟩
  failure hfail e he hcommit := by
    rcases List.mem_append.mp he with he | he
    · exact absurd hcommit (hopen e he)
    · exact h.failure hfail e he hcommit

/-- Only whether the transaction succeeded matters, not with which answer. -/
theorem answer {plan : List Statement} {es : List Event} {a : α} {b : β}
    (h : AllOrNothing plan es (.ok a)) : AllOrNothing plan es (.ok b) where
  last := h.last
  success _ := h.success rfl
  failure hfail := by cases hfail

/-- A transaction that failed has no answer. -/
theorem error {plan : List Statement} {es : List Event} {e : Failure}
    (h : AllOrNothing plan es (.error e : Except Failure α)) :
    AllOrNothing plan es (.error e : Except Failure β) where
  last := h.last
  success hok := by cases hok
  failure _ := h.failure rfl

end AllOrNothing

/-- Started with auto-commit off, the session commits its plan as a whole or not at all. -/
def Session.CommitsLast (m : Session σ α) (plan : Link σ → List Statement) : Prop :=
  m.Meets fun s es r _ => s.autoCommit.truth = false → AllOrNothing (plan s) es r

/-- On SQL Server the guard does nothing, so a drop is work like any other. -/
theorem Working.dropTableIfExists [Driver σ] {w : Writer} (hw : w.product = .sqlServer)
    (t : TableRef) : Working (w.dropTableIfExists t : Session σ Unit) := by
  refine (tableExists t).bind fun found => ?_
  cases found with
  | false => exact pure ()
  | true =>
    show Working (w.dropTable t)
    rw [Writer.dropTable, Writer.inAutoCommit_of_sqlServer hw]
    exact (run _).discard

namespace Session.CommitsLast

/-- What comes after the commit may make no call. -/
theorem bind_silent {m : Session σ α} {k : α → Session σ β} {p : Link σ → List Statement}
    (hm : m.CommitsLast p) (hk : ∀ a, (k a).Silent) : (m >>= k).CommitsLast p := by
  have hquiet : ∀ a, (k a).Meets fun _ es r _ => es = [] ∧ ∃ b, r = .ok b :=
    fun a => Meets.of_silent (hk a) fun _ _ => ⟨rfl, _, rfl⟩
  refine Meets.bind hm hquiet ?_ ?_
  · intro s es e s' h hoff
    exact (h hoff).error
  · intro s es₁ a mid es₂ r s' h hquiet hoff
    obtain ⟨rfl, b, rfl⟩ := hquiet
    rw [List.append_nil]
    exact (h hoff).answer

variable [Driver σ]

/-- With auto-commit off, `commitIfNecessary` is the commit. -/
theorem commitIfNecessary :
    (commitIfNecessary : Session σ Unit).CommitsLast fun _ => [] := by
  intro s
  cases hmode : s.autoCommit.truth with
  | true =>
    obtain ⟨es, htrace, _⟩ := Steady.commitIfNecessary s
    refine ⟨es, htrace, ?_⟩
    intro hoff
    cases hmode.symm.trans hoff
  | false =>
    obtain ⟨es, htrace, fault, rfl, _, hr⟩ := meets_perform .commit s
    refine ⟨[⟨.commit, s.autoCommit, fault⟩], ?_, ?_⟩
    · rw [after, commitIfNecessary_of_off hmode]
      exact htrace
    · intro _
      rw [outcome, commitIfNecessary_of_off hmode]
      refine .commit ?_
      change (((perform .commit).outcome s).isOk = true ↔ _)
      rw [hr]
      cases fault with
      | none => exact iff_of_true rfl rfl
      | some f => exact iff_of_false Bool.false_ne_true (Option.some_ne_none f)

/-- **Work and a transaction after it.**  The plan of what follows may depend on the answer. -/
theorem bind {m : Session σ α} {k : α → Session σ β} {p₁ p : Link σ → List Statement}
    {p₂ : α → Link σ → List Statement} (hm : Working m) (hf : m.Follows p₁)
    (hk : ∀ a, (k a).CommitsLast (p₂ a))
    (hcontinued : ∀ s a, m.outcome s = .ok a → p s = p₁ s ++ p₂ a (m.after s)) :
    (m >>= k).CommitsLast p := by
  have hfirst := ((Steady.of_working hm).and (Faithful.of_working hm)).and
    (hf.and (Calls.uncommitted_of_working hm))
  refine Meets.bind hfirst.exactly (fun a => hk a) ?_ ?_
  · intro s es e s' hfirst _
    obtain ⟨⟨_, _, hopen⟩, _⟩ := hfirst
    exact .stopped hopen
  · intro s es₁ a mid es₂ r s' hfirst h hoff
    obtain ⟨⟨⟨hsteady, hreported⟩, hfollowed, hopen⟩, hr, rfl⟩ := hfirst
    have hmid : (m.after s).autoCommit.truth = false := by
      rw [hsteady.1]
      exact hoff
    rw [hcontinued s a hr.symm]
    exact .prepend (hfollowed.complete a rfl) (lastFault?_eq_none.mp (hreported.ok a rfl)) hopen
      (h hmid)

/-- Work with a plan, and a transaction with a fixed plan after it. -/
theorem append {m : Session σ α} {k : α → Session σ β} {p₁ : Link σ → List Statement}
    {p₂ : List Statement} (hm : Working m) (hf : m.Follows p₁)
    (hk : ∀ a, (k a).CommitsLast fun _ => p₂) : (m >>= k).CommitsLast fun s => p₁ s ++ p₂ :=
  bind hm hf hk fun _ _ _ => rfl

/-- Work with a plan, and only the commit after it. -/
theorem before_commit {m : Session σ α} {k : α → Session σ β} {p : Link σ → List Statement}
    (hm : Working m) (hf : m.Follows p) (hk : ∀ a, (k a).CommitsLast fun _ => []) :
    (m >>= k).CommitsLast p :=
  bind hm hf hk fun _ _ _ => (List.append_nil _).symm

/-- A message before a transaction. -/
theorem say_bind {severity : Severity} {message : Text} {context : Context}
    {k : Unit → Session σ β} {p : Link σ → List Statement} (hk : (k ()).CommitsLast p)
    (hplan : ∀ s : Link σ, p (s.log severity message context) = p s) :
    (say severity message context >>= k).CommitsLast p := by
  refine bind (.say _ _ _) (.of_silent (.say _ _ _)) (fun _ => hk) ?_
  intro s _ _
  exact (hplan s).symm

/-! ## The tasks that are one transaction -/

variable (w : Writer)

/-- A creation is one transaction. -/
theorem createTableAs (t : TableRef) (sch : Schema) (tableConstraint tableOption : Option Text) :
    (createTableAs w.quoting w.product.columnType t sch tableConstraint tableOption :
      Session σ Unit).CommitsLast fun _ => w.createPlan t sch tableConstraint tableOption :=
  before_commit (Working.run _).discard (Follows.run .definition _).discard fun _ =>
    commitIfNecessary

/-- An insertion is one transaction, with the statements before and after it. -/
theorem collectInsert (sources : List TableRef) (sch : Schema) (target : TableRef)
    (truncateFirst : Bool) (preSql postSql : Option Text) :
    (w.collectInsert sources sch target truncateFirst preSql postSql : Session σ Int).CommitsLast
      fun _ => w.insertPlan sources sch target truncateFirst preSql postSql := by
  have hpost : ∀ n : Int, (do
      StagedLoad.runPresent postSql
      StagedLoad.commitIfNecessary
      say .info "Collect insert completed"
        [("target_table", .text target.text), ("inserted", .int n)]
      return n : Session σ Int).CommitsLast fun _ => Statement.optional .collect postSql := by
    intro n
    exact before_commit (.runPresent postSql) (.runPresent .collect postSql) fun _ =>
      commitIfNecessary.bind_silent fun _ => (Silent.say _ _ _).bind fun _ => .pure n
  have hinsert := append (.run (appendSql w.quoting sources sch target))
    (.run (σ := σ) .collect _) hpost
  have hrest : (w.collectInsert sources sch target false preSql postSql :
      Session σ Int).CommitsLast fun _ => w.insertPlan sources sch target false preSql postSql :=
    bind (.runPresent preSql) (.runPresent .collect preSql) (fun _ => hinsert) fun _ _ _ => rfl
  cases truncateFirst with
  | false => exact hrest
  | true => exact append (Working.run _).discard (Follows.run .collect _).discard fun _ => hrest

/-- A merge is one transaction, both statements of an update with inserts included. -/
theorem collectMerge (sources : List TableRef) (sch : Schema) (target : TableRef) (m : MergeSpec)
    (strategy : MergeStrategy) (preSql postSql : Option Text) :
    (w.collectMerge sources sch target m strategy preSql postSql :
      Session σ CollectResult).CommitsLast
      fun _ => w.mergePlan sources sch target m strategy preSql postSql := by
  have hpost : ∀ r : CollectResult, (do
      StagedLoad.runPresent postSql
      StagedLoad.commitIfNecessary
      return r : Session σ CollectResult).CommitsLast
        fun _ => Statement.optional .collect postSql := by
    intro r
    exact before_commit (.runPresent postSql) (.runPresent .collect postSql) fun _ =>
      commitIfNecessary.bind_silent fun _ => .pure r
  have hbody := append (.runPresent preSql) (.runPresent (σ := σ) .collect preSql) fun _ =>
    append (.runTallied (mergeStatements w.quoting strategy sources sch target m) {})
      (.runTallied .collect _ _) hpost
  refine say_bind (bind_silent (Meets.observing hbody (fun _ _ => rfl) fun h => h) ?_) fun _ => rfl
  intro r
  exact (Silent.say _ _ _).bind fun _ => .pure r

/-- The collect phase of a load is one transaction. -/
theorem collect (c : OutputSettings) (sources : List TableRef) (sch : Schema) :
    (w.collect c sources sch : Session σ CollectResult).CommitsLast
      fun _ => w.collectPlan c sources sch := by
  unfold Writer.collect Writer.collectPlan
  cases c.merge with
  | none => exact (collectInsert w _ _ _ _ _ _).bind_silent fun _ => .pure _
  | some m => exact collectMerge w _ _ _ _ _ _ _

variable {w}

/-- On SQL Server the guard does nothing, so a creation is one transaction there. -/
theorem createTable (hw : w.product = .sqlServer) (t : TableRef) (sch : Schema)
    (tableConstraint tableOption : Option Text) :
    (w.createTable t sch tableConstraint tableOption : Session σ Unit).CommitsLast
      fun _ => w.createPlan t sch tableConstraint tableOption := by
  unfold Writer.createTable
  rw [Writer.inAutoCommit_of_sqlServer hw]
  exact say_bind (createTableAs w t sch tableConstraint tableOption) fun _ => rfl

/-- On SQL Server a replacement is one transaction, with the drop in it. -/
theorem replaceTable (hw : w.product = .sqlServer) (source target : TableRef)
    (postSql : Option Text) :
    (w.replaceTable source target postSql : Session σ Unit).CommitsLast
      fun s => w.replacePlan (w.entered s) source target postSql := by
  have hentered : ∀ s : Link σ, w.entered s = s := by
    intro s
    rw [Writer.entered, hw]
  have hplan := w.replacePlan_entered_log (σ := σ)
  simp only [hentered] at hplan ⊢
  unfold Writer.replaceTable
  rw [Writer.inAutoCommit_of_sqlServer hw]
  refine say_bind ?_ fun s => hplan s source target postSql _ _ _
  refine append (.dropTableIfExists hw target) (.dropTableIfExists w target) fun _ => ?_
  refine append (Working.run _).discard (Follows.run .definition _).discard fun _ => ?_
  exact before_commit (.runPresent postSql) (.runPresent .other postSql) fun _ => commitIfNecessary

end Session.CommitsLast

/-! ## Loads -/

section

variable [Driver σ] (w : Writer)

/-- In a collect phase a commit is the last call, in either mode. -/
theorem Writer.collect_commits_last (c : OutputSettings) (sources : List TableRef) (sch : Schema) :
    (w.collect c sources sch : Session σ CollectResult).Meets fun _ es _ _ =>
      ∀ before e after, es = before ++ e :: after → e.call = .commit → after = [] := by
  have hon := Session.StaysOn.of_plain (.collect (σ := σ) w c sources sch)
  refine ((Session.CommitsLast.collect w c sources sch).and hon).mono ?_
  intro s es r s' h before e after hes he
  obtain ⟨hcommits, hkept⟩ := h
  cases hmode : s.autoCommit.truth with
  | false => exact ((hcommits hmode).last before e after hes he).1
  | true => exact absurd he ((hkept hmode).2 e (mem_of_split hes)).2

/-- **No commit parts a collect phase**: when a load commits, it has not begun with its collect
phase yet, or it makes no call any more. -/
theorem Writer.load_commits (c : OutputSettings) (sources : List TableRef) (sch : Schema) :
    (w.load c sources sch : Session σ CollectResult).Meets fun s es _ _ =>
      ∀ before e after, es = before ++ e :: after → e.call = .commit →
        (executed before).length ≤ (w.preparePlan s c sch).length ∨ after = [] := by
  have hprepare : ∀ {s : Link σ} {es : List Event} {r : Except Failure Unit}
      {before rest : List Event} {e : Event}, Followed (w.preparePlan s c sch) es r →
      es = before ++ e :: rest → (executed before).length ≤ (w.preparePlan s c sch).length := by
    intro s es r before rest e hfollowed hes
    have hlength := hfollowed.beginning.length_le
    rw [hes, executed_append, List.length_append, List.length_map] at hlength
    omega
  rw [w.load_eq]
  refine Session.Meets.bind (Session.Follows.prepare w c sch)
    (fun _ => w.collect_commits_last c sources sch) ?_ ?_
  · intro s es e s' hfollowed before x after hes _
    exact .inl (hprepare hfollowed hes)
  · intro s es₁ a mid es₂ r s' hfollowed hlast before e after hes he
    rcases append_split hes with ⟨rest, hfirst⟩ | ⟨front, rfl, hsecond⟩
    · exact .inl (hprepare hfollowed hfirst)
    · exact .inr (hlast front e after hsecond he)

end

/-! ## The tasks -/

namespace Task

/-- Whether the task, started with auto-commit off, is one transaction. -/
def isTransaction (p : Product) : Task → Bool
  | collectInsert .. => true
  | collectMerge .. => true
  | createTable .. => p == .sqlServer
  | replaceTable .. => p == .sqlServer
  | _ => false

/-- Whether the task is about a table as a whole: creates, drops or replaces it. -/
def isDefinition : Task → Bool
  | createTable .. => true
  | dropTable .. => true
  | dropTableIfExists .. => true
  | replaceTable .. => true
  | _ => false

variable [Driver σ] {w : Writer} {t : Task}

/-- The tasks that are one transaction commit their plan last. -/
theorem commitsLast_of_isTransaction (h : t.isTransaction w.product = true) :
    (t.perform w : Session σ Answer).CommitsLast fun s => t.plan w s := by
  cases t with
  | collectInsert sources sch target truncateFirst preSql postSql =>
    exact (Session.CommitsLast.collectInsert w _ _ _ _ _ _).bind_silent fun _ => .pure _
  | collectMerge sources sch target m strategy preSql postSql =>
    exact (Session.CommitsLast.collectMerge w _ _ _ _ _ _ _).bind_silent fun _ => .pure _
  | createTable t sch tableConstraint tableOption =>
    have hw : w.product = .sqlServer := eq_of_beq h
    exact (Session.CommitsLast.createTable hw _ _ _ _).bind_silent fun _ => .pure _
  | replaceTable source target postSql =>
    have hw : w.product = .sqlServer := eq_of_beq h
    exact (Session.CommitsLast.replaceTable hw _ _ _).bind_silent fun _ => .pure _
  | _ => cases h

/-- On Synapse all that defines tables is in guards, but for the lookups before. -/
theorem uncommitted_of_isDefinition (hw : w.product = .synapse) (h : t.isDefinition = true) :
    (t.perform w : Session σ Answer).Calls fun e => e.call ≠ .commit := by
  have hdone : ∀ a : Answer, (pure a : Session σ Answer).Calls fun e => e.call ≠ .commit :=
    fun a => .of_silent (.pure a)
  have hdrop : ∀ t : TableRef,
      (w.dropTable t : Session σ Unit).Calls fun e => e.call ≠ .commit :=
    fun _ => .uncommitted_of_guard hw (.working w (Working.run _).discard)
  cases t with
  | createTable t sch tableConstraint tableOption =>
    have hcreate : (w.createTable t sch tableConstraint tableOption : Session σ Unit).Calls
        fun e => e.call ≠ .commit :=
      .bind (.of_silent (.say _ _ _)) fun _ =>
        .uncommitted_of_guard hw (.plain (.createTableAs _ _ _ _ _ _))
    exact hcreate.bind fun _ => hdone _
  | dropTable t => exact (hdrop t).bind fun _ => hdone _
  | dropTableIfExists t =>
    have hlookup : (w.dropTableIfExists t : Session σ Unit).Calls fun e => e.call ≠ .commit := by
      refine .bind (.uncommitted_of_working (.tableExists t)) fun found => ?_
      cases found with
      | false => exact .of_silent (.pure ())
      | true => exact hdrop t
    exact hlookup.bind fun _ => hdone _
  | replaceTable source target postSql =>
    have hreplace : (w.replaceTable source target postSql : Session σ Unit).Calls
        fun e => e.call ≠ .commit :=
      .bind (.of_silent (.say _ _ _)) fun _ =>
        .uncommitted_of_guard hw (.replaceBody w source target postSql)
    exact hreplace.bind fun _ => hdone _
  | _ => cases h

/-- A load commits before its collect phase, or as its last call. -/
theorem load_commits (c : OutputSettings) (sources : List TableRef) (sch : Schema) :
    ((load c sources sch).perform w : Session σ Answer).Meets fun s es _ _ =>
      ∀ before e after, es = before ++ e :: after → e.call = .commit →
        (executed before).length ≤ (w.preparePlan s c sch).length ∨ after = [] := by
  have hquiet : ∀ a : Answer, (pure a : Session σ Answer).Meets fun _ es _ _ => es = [] :=
    fun a => .of_silent (.pure a) fun _ _ => rfl
  refine Session.Meets.bind (w.load_commits c sources sch) (fun r => hquiet (.counts r))
    (fun h => h) ?_
  intro s es₁ a mid es₂ r s' h hnone
  rw [hnone, List.append_nil]
  exact h

/-- **What a task commits.**  For every driver and on every link:

* A task executes a beginning of its plan, and the whole plan if it succeeds.
* A collection, and on SQL Server a creation or a replacement, that starts with auto-commit off
  commits all of its statements as its last call, or nothing.
* A task that starts with auto-commit on makes no commit, and neither does a definition on Synapse.
* A load makes no commit between the first and the last statement of its collect phase. -/
theorem commits_as_a_whole (w : Writer) (t : Task) (s : Link σ) :
    Followed (t.plan w s) ((t.perform w).issued s) ((t.perform w).outcome s) ∧
    (t.isTransaction w.product = true → s.autoCommit.truth = false →
      AllOrNothing (t.plan w s) ((t.perform w).issued s) ((t.perform w).outcome s)) ∧
    (s.autoCommit.truth = true → ∀ e ∈ (t.perform w).issued s, e.call ≠ .commit) ∧
    (w.product = .synapse → t.isDefinition = true →
      ∀ e ∈ (t.perform w).issued s, e.call ≠ .commit) ∧
    (∀ c sources sch, t = .load c sources sch → ∀ before e after,
      (t.perform w).issued s = before ++ e :: after → e.call = .commit →
        (executed before).length ≤ (w.preparePlan s c sch).length ∨ after = []) := by
  refine ⟨(t.perform_follows w).issued s, ?_, ?_, ?_, ?_⟩
  · intro htransaction hoff
    exact (commitsLast_of_isTransaction htransaction).issued s hoff
  · intro hon e he
    have hkept := (Session.StaysOn.of_guarded (t.perform_guarded w)).issued s hon
    exact (hkept.2 e he).2
  · intro hw hdefinition
    exact (uncommitted_of_isDefinition hw hdefinition).issued s
  · intro c sources sch hload
    subst hload
    exact (load_commits c sources sch).issued s

end Task

/-- The target is dropped and the renaming is refused: the drop is not committed. -/
example :
    let t : Task := .replaceTable (.make "new" none none) (.make "old" none none) none
    let rules : List Rule :=
      [{ on := "execute", fault := ⟨.database, "locked"⟩, part := some "sp_rename" }]
    let s : Link Script := { driver := { rows := [some []], rules } }
    ((t.perform {}).issued s).map (fun e => e.call.name) =
      ["cursor", "execute", "fetchone", "close_cursor", "cursor", "execute", "close_cursor",
        "cursor", "execute", "close_cursor"] := rfl

end StagedLoad

import StagedLoad.Proofs.Dialogue
import StagedLoad.Proofs.Plan

/-!
# What a load reports

The plan of a load is settled by its settings and by one answer of the driver, the row that the
lookup of the target fetches.  The result of the load is settled by the row counts that the driver
reports for the collect statements, and by nothing else that the driver says.

* `Writer.loadPlan` : the statements of a load in order.
* `Session.Reports.bind`, `Session.Reports.inAutoCommit` : reports are put together as sessions are.
* `Writer.load_executes_plan` : a load executes its plan and reports the counts of its collect
  statements.
-/

namespace StagedLoad

variable {σ α β : Type}

/-! ## What the driver told -/

/-- The statements with the row counts that the driver reported for them. -/
def counted (xs : List Exchange) : List (Query × Int) := xs.filterMap fun
  | ⟨.execute q, .count n⟩ => some (q, n)
  | _ => none

/-- The answers of the driver to the calls that ask for a row. -/
def fetched (xs : List Exchange) : List (Option (List Value)) := xs.filterMap fun
  | ⟨_, .row r⟩ => some r
  | _ => none

theorem counted_append (xs ys : List Exchange) : counted (xs ++ ys) = counted xs ++ counted ys :=
  List.filterMap_append

theorem fetched_append (xs ys : List Exchange) : fetched (xs ++ ys) = fetched xs ++ fetched ys :=
  List.filterMap_append

/-! ## Crediting row counts -/

namespace CollectResult

/-- One of the counts of a result. -/
def tally (r : CollectResult) : Tally → Int
  | .inserted => r.inserted
  | .updated => r.updated
  | .merged => r.merged

/-- The result with several row counts set, one after the other. -/
def creditAll (r : CollectResult) (reported : List (Tally × Int)) : CollectResult :=
  reported.foldl (fun r x => r.credit x.2 x.1) r

end CollectResult

/-! ## The plan of a load -/

/-- A statement of the settings, which is left out if it is missing or empty. -/
def hook : Option Text → List Query
  | none => []
  | some [] => []
  | some (c :: cs) => [{ sql := c :: cs }]

namespace Writer

variable (w : Writer)

/-- The target is created if the lookup did not find it. -/
def creationQueries (found : Bool) (c : OutputSettings) (sch : Schema) : List Query :=
  if found then [] else
    [{ sql := createTableSql w.quoting w.product.columnType (TableRef.parse c.table) sch
        c.tableConstraint c.tableOption }]

/-- The collect statements with the keys and the rule of the settings, each with the count that it
is credited to. -/
def collectStatements (c : OutputSettings) (sources : List TableRef) (sch : Schema) :
    List (Tally × Text) :=
  let target := TableRef.parse c.table
  match c.merge with
  | none => [(.inserted, appendSql w.quoting sources sch target)]
  | some ⟨keys, rule, .merge⟩ =>
    [(.merged, collectMergeSql w.quoting sources sch target ⟨keys, rule⟩)]
  | some ⟨keys, rule, .updateInsert⟩ => [
    (.updated, collectUpdateSql w.quoting sources sch target ⟨keys, rule⟩),
    (.inserted, collectInsertSql w.quoting sources sch target ⟨keys, rule⟩)]

end Writer

section

variable [Driver σ]

/-- A load after the answer of its lookup. -/
def Writer.fulfil (w : Writer) (found : Bool) (c : OutputSettings) (sources : List TableRef)
    (sch : Schema) : Session σ CollectResult :=
  (if found then pure () else w.createTable c.target sch c.tableConstraint c.tableOption) >>=
    fun _ => w.collect c sources sch

/-- The plan of a load after the answer of its lookup. -/
def Writer.fulfilPlan (w : Writer) (found : Bool) (c : OutputSettings) (sources : List TableRef)
    (sch : Schema) : List Statement :=
  (if found then [] else w.createPlan c.target sch c.tableConstraint c.tableOption) ++
    w.collectPlan c sources sch

/-- The session asks for no row; when it succeeds, its answer and the row counts that were reported
to it are related like this. -/
abbrev Session.Reports (m : Session σ α) (C : α → List (Query × Int) → Prop) : Prop :=
  m.Tells fun r xs => fetched xs = [] ∧ ∀ a, r = .ok a → C a (counted xs)

/-- The session executes these statements when it succeeds. -/
abbrev Session.Executes (m : Session σ α) (qs : List Query) : Prop :=
  m.Reports fun _ l => l.map Prod.fst = qs

/-- The row counts between those of some first and some last statements are related to the answer.
-/
def Between (first last : List Query) (C : α → List (Query × Int) → Prop) (a : α)
    (l : List (Query × Int)) : Prop :=
  ∃ before counts after, l = before ++ counts ++ after ∧ before.map Prod.fst = first ∧
    C a counts ∧ after.map Prod.fst = last

/-- The row counts are those of the statements, and the result credits all of them. -/
def Credited (statements : List (Tally × Text)) (start r : CollectResult)
    (counts : List (Query × Int)) : Prop :=
  counts.map Prod.fst = statements.map (fun st => { sql := st.2 }) ∧
    r = start.creditAll ((statements.map Prod.fst).zip (counts.map Prod.snd))

namespace Session.Reports

variable {C : α → List (Query × Int) → Prop} {m : Session σ α}

/-- Less may be said of the answer and the row counts. -/
theorem mono {P : α → List (Query × Int) → Prop} (hm : m.Reports P)
    (h : ∀ {a l}, P a l → C a l) : m.Reports C :=
  Tells.mono hm fun hP => ⟨hP.1, fun a ha => h (hP.2 a ha)⟩

theorem pure {a : α} (h : C a []) : (Pure.pure a : Session σ α).Reports C := by
  refine Tells.of_silent (.pure a) (fun _ => rfl) ?_
  intro s b hb
  cases hb
  exact ⟨rfl, fun _ hb => by cases hb; exact h⟩

theorem say (severity : Severity) (message : Text) (context : Context) :
    (say severity message context : Session σ Unit).Executes [] :=
  Tells.of_silent (.say _ _ _) (fun _ => rfl) fun _ => ⟨rfl, fun _ _ => rfl⟩

theorem getAutoCommit : (getAutoCommit : Session σ Bool).Executes [] :=
  Tells.of_silent .getAutoCommit (fun _ => rfl) fun _ => ⟨rfl, fun _ _ => rfl⟩

/-- **One report after the other.** -/
theorem bind {k : α → Session σ β} {D : α → β → List (Query × Int) → Prop}
    {E : β → List (Query × Int) → Prop} (hm : m.Reports C) (hk : ∀ a, (k a).Reports (D a))
    (h : ∀ {a b l₁ l₂}, C a l₁ → D a b l₂ → E b (l₁ ++ l₂)) : (m >>= k).Reports E := by
  refine Tells.bind hm hk ?_ ?_
  · intro e xs hxs
    exact ⟨hxs.1, nofun⟩
  · intro xs a ys r hxs hys
    refine ⟨by rw [fetched_append, hxs.1, hys.1, List.append_nil], ?_⟩
    intro b hb
    rw [counted_append]
    exact h (hxs.2 a rfl) (hys.2 b hb)

/-- What comes before a report may report nothing. -/
theorem silent_bind {k : α → Session σ β} {E : β → List (Query × Int) → Prop}
    (hm : m.Executes []) (hk : ∀ a, (k a).Reports E) : (m >>= k).Reports E := by
  refine bind hm hk ?_
  intro a b l₁ l₂ h₁ h₂
  rw [List.map_eq_nil_iff.mp h₁]
  exact h₂

/-- What comes after a report may report nothing. -/
theorem bind_silent {k : α → Session σ β} {E : β → List (Query × Int) → Prop} (hm : m.Reports C)
    (hk : ∀ a, (k a).Reports fun b l => l = [] ∧ ∀ l', C a l' → E b l') : (m >>= k).Reports E := by
  refine bind hm hk ?_
  intro a b l₁ l₂ h₁ h₂
  rw [h₂.1, List.append_nil]
  exact h₂.2 _ h₁

/-- A clean-up that executes nothing leaves the report of the body alone. -/
theorem ensuring {cleanup : Session σ Unit} (hm : m.Reports C) (hc : cleanup.Executes []) :
    (m.ensuring cleanup).Reports C := by
  refine Tells.ensuring hm hc ?_ ?_
  · intro r xs ys hxs hys
    refine ⟨by rw [fetched_append, hxs.1, hys.1, List.append_nil], ?_⟩
    intro a ha
    rw [counted_append, List.map_eq_nil_iff.mp (hys.2 () rfl), List.append_nil]
    exact hxs.2 a ha
  · intro r xs e ys hxs hys
    exact ⟨by rw [fetched_append, hxs.1, hys.1, List.append_nil], nofun⟩

/-- A session whose faults are logged. -/
theorem observing (severity : Severity) (message : Text) (context : Fault → Context)
    (hm : m.Reports C) :
    (m.observing fun f s => s.log severity message (context f)).Reports C :=
  Meets.observing hm (fun _ _ => rfl) fun h => h

/-- A call that asks for nothing. -/
theorem of_asks {c : Call} {m : Session σ Unit} (hc : Response.done.Answers c)
    (hm : m.Meets (Asks c fun _ => ())) : m.Executes [] := by
  refine Tells.of_asks hm ?_
  intro x hx
  cases x with
  | refused f => exact ⟨rfl, nofun⟩
  | count n =>
    obtain ⟨q, hq⟩ := hx
    exact absurd hq (hc.1 q)
  | row row => exact absurd hx hc.2
  | done =>
    refine ⟨rfl, fun _ _ => ?_⟩
    cases c with
    | execute q => rfl
    | _ => rfl

/-- A call that asks for nothing executes nothing. -/
theorem call {c : Call} (hc : Response.done.Answers c) :
    (perform c : Session σ Unit).Executes [] := of_asks hc (meets_call hc.1 hc.2)

theorem setAutoCommit (on : Bool) : (setAutoCommit on : Session σ Unit).Executes [] :=
  of_asks (c := .setAutoCommit on) ⟨nofun, nofun⟩ (meets_modeChange on)

/-- One statement on an open cursor. -/
theorem carryOut (q : Query) : (carryOut q : Session σ Int).Reports fun n l => l = [(q, n)] := by
  refine Tells.of_asks (meets_carryOut q) ?_
  intro x hx
  cases x with
  | refused f => exact ⟨rfl, nofun⟩
  | count n =>
    refine ⟨rfl, ?_⟩
    intro a ha
    cases ha
    rfl
  | row row => cases hx
  | done => exact absurd rfl (hx.1 q)

/-- To open and to close a cursor is to execute nothing. -/
theorem withCursor (hm : m.Reports C) : (withCursor m).Reports C :=
  (call (c := .cursor) ⟨nofun, nofun⟩).silent_bind fun _ =>
    hm.ensuring (call (c := .closeCursor) ⟨nofun, nofun⟩)

/-- **One statement** answers the row count that the driver reports for it. -/
theorem run (sql : Text) : (run sql : Session σ Int).Reports fun n l => l = [({ sql }, n)] :=
  (say _ _ _).silent_bind fun _ => (carryOut _).withCursor

/-- One session after the other, each of which executes its statements. -/
theorem append {k : α → Session σ β} {qs₁ qs₂ : List Query} (hm : m.Executes qs₁)
    (hk : ∀ a, (k a).Executes qs₂) : (m >>= k).Executes (qs₁ ++ qs₂) := by
  refine bind hm hk ?_
  intro a b l₁ l₂ h₁ h₂
  rw [List.map_append, h₁, h₂]

/-- The answer may be left unread; the statements are the same. -/
theorem discard {qs : List Query} (hm : m.Executes qs) : (Functor.discard m).Executes qs := by
  rw [discard_eq_bind]
  exact hm.bind_silent fun _ => pure ⟨rfl, fun _ h => h⟩

theorem discard_run (sql : Text) :
    (Functor.discard (StagedLoad.run sql) : Session σ Unit).Executes [{ sql }] := by
  refine discard ((run sql).mono ?_)
  rintro n _ rfl
  rfl

theorem runPresent (sql : Option Text) : (runPresent sql : Session σ Unit).Executes (hook sql) := by
  rcases sql with _ | _ | ⟨c, cs⟩
  · exact pure rfl
  · exact pure rfl
  · exact discard_run (c :: cs)

theorem commitIfNecessary : (commitIfNecessary : Session σ Unit).Executes [] := by
  refine getAutoCommit.silent_bind fun on => ?_
  cases on with
  | false => exact call ⟨nofun, nofun⟩
  | true => exact pure rfl

/-- **A guard reports what its body reports.** -/
theorem inAutoCommit (w : Writer) (hm : m.Reports C) : (w.inAutoCommit m).Reports C := by
  unfold Writer.inAutoCommit
  cases w.product with
  | sqlServer => exact hm
  | synapse =>
    exact getAutoCommit.silent_bind fun before =>
      ((setAutoCommit true).silent_bind fun _ => hm).ensuring (setAutoCommit before)

/-- **The collect statements.**  Each row count is credited to the count of its statement. -/
theorem runTallied (statements : List (Tally × Text)) (r : CollectResult) :
    (runTallied statements r : Session σ CollectResult).Reports (Credited statements r) := by
  induction statements generalizing r with
  | nil => exact pure ⟨rfl, rfl⟩
  | cons statement statements ih =>
    refine bind (run statement.2) (fun n => ih _) ?_
    rintro n r' _ l rfl ⟨hl, rfl⟩
    exact ⟨by rw [List.map_append, hl]; rfl, rfl⟩

variable (w : Writer)

/-- A creation executes one statement, whatever it answers. -/
theorem createTable (t : TableRef) (sch : Schema) (tableConstraint tableOption : Option Text) :
    (w.createTable t sch tableConstraint tableOption : Session σ Unit).Executes
      [{ sql := createTableSql w.quoting w.product.columnType t sch tableConstraint
          tableOption }] :=
  (say _ _ _).silent_bind fun _ =>
    inAutoCommit w ((discard_run _).append fun _ => commitIfNecessary)

/-- A session between two statements of the settings. -/
theorem between (preSql postSql : Option Text) {finish : α → Session σ α} (hm : m.Reports C)
    (hfinish : ∀ a, (finish a).Reports fun b l => l = [] ∧ b = a) :
    (do StagedLoad.runPresent preSql
        let a ← m
        StagedLoad.runPresent postSql
        finish a : Session σ α).Reports (Between (hook preSql) (hook postSql) C) := by
  have hrest : (do
      let a ← m
      StagedLoad.runPresent postSql
      finish a : Session σ α).Reports fun a l =>
        ∃ counts after, l = counts ++ after ∧ C a counts ∧ after.map Prod.fst = hook postSql := by
    refine bind hm (fun a => bind (E := fun b l => l.map Prod.fst = hook postSql ∧ b = a)
      (runPresent postSql) (fun _ => hfinish a) ?_) ?_
    · rintro _ b l₁ l₂ h₁ ⟨rfl, rfl⟩
      exact ⟨by rw [List.append_nil, h₁], rfl⟩
    · rintro a b l₁ l₂ h₁ ⟨h₂, rfl⟩
      exact ⟨l₁, l₂, rfl, h₁, h₂⟩
  refine bind (runPresent preSql) (fun _ => hrest) ?_
  rintro _ a before _ hbefore ⟨counts, after, rfl, hcounts, hafter⟩
  exact ⟨before, counts, after, (List.append_assoc _ _ _).symm, hbefore, hcounts, hafter⟩

/-- An insertion answers the row count of its own statement, not of those around it. -/
theorem collectInsert (sources : List TableRef) (sch : Schema) (target : TableRef)
    (preSql postSql : Option Text) :
    (w.collectInsert sources sch target false preSql postSql : Session σ Int).Reports
      (Between (hook preSql) (hook postSql) fun n l =>
        l = [({ sql := appendSql w.quoting sources sch target }, n)]) :=
  between preSql postSql (run _) fun _ =>
    commitIfNecessary.silent_bind fun _ => (say _ _ _).silent_bind fun _ => pure ⟨rfl, rfl⟩

/-- A merge credits the row counts of its own statements, not of those around them. -/
theorem collectMerge (sources : List TableRef) (sch : Schema) (target : TableRef) (m : MergeSpec)
    (strategy : MergeStrategy) (preSql postSql : Option Text) :
    (w.collectMerge sources sch target m strategy preSql postSql :
      Session σ CollectResult).Reports
      (Between (hook preSql) (hook postSql)
        (Credited (mergeStatements w.quoting strategy sources sch target m) {})) := by
  refine (say _ _ _).silent_bind fun _ => bind_silent (observing _ _ _ ?_) fun _ =>
    (say _ _ _).silent_bind fun _ => pure ⟨rfl, fun _ h => h⟩
  exact between preSql postSql (runTallied _ _) fun _ =>
    commitIfNecessary.silent_bind fun _ => pure ⟨rfl, rfl⟩

/-- **The collect phase of a load credits its collect statements.** -/
theorem collect (c : OutputSettings) (sources : List TableRef) (sch : Schema) :
    (w.collect c sources sch : Session σ CollectResult).Reports
      (Between (hook c.beforeLoad) (hook c.afterLoad)
        (Credited (w.collectStatements c sources sch) {})) := by
  unfold Writer.collect Writer.collectStatements
  cases c.merge with
  | none =>
    refine (collectInsert w _ _ _ _ _).bind_silent fun n => pure ⟨rfl, ?_⟩
    rintro l ⟨before, counts, after, rfl, hbefore, rfl, hafter⟩
    exact ⟨before, _, after, rfl, hbefore, ⟨rfl, rfl⟩, hafter⟩
  | some m =>
    obtain ⟨keys, rule, strategy⟩ := m
    have hmerge := collectMerge (σ := σ) w sources sch c.target ⟨keys, rule⟩ strategy c.beforeLoad
      c.afterLoad
    cases strategy with
    | merge => exact hmerge
    | updateInsert => exact hmerge

/-- A creation before the collect phase is one more statement that is not credited. -/
theorem fulfil (found : Bool) (c : OutputSettings) (sources : List TableRef) (sch : Schema) :
    (w.fulfil found c sources sch : Session σ CollectResult).Reports
      (Between (w.creationQueries found c sch ++ hook c.beforeLoad) (hook c.afterLoad)
        (Credited (w.collectStatements c sources sch) {})) := by
  have hcreate : (if found then Pure.pure () else
      w.createTable c.target sch c.tableConstraint c.tableOption : Session σ Unit).Executes
        (w.creationQueries found c sch) := by
    cases found with
    | false => exact createTable w _ _ _ _
    | true => exact pure rfl
  refine bind hcreate (fun _ => collect w c sources sch) ?_
  rintro _ r l _ hl ⟨before, counts, after, rfl, hbefore, hcounts, hafter⟩
  refine ⟨l ++ before, counts, after, by simp only [List.append_assoc], ?_, hcounts, hafter⟩
  rw [List.map_append, hl, hbefore]

end Session.Reports

/-! ## Lookups -/

/-- At most one row was asked for; when the session succeeds, it answers that row and has executed
these statements. -/
structure Looked (qs : List Query) (r : Except Failure (Option (List Value)))
    (xs : List Exchange) : Prop where
  once : (fetched xs).length ≤ 1
  answered : ∀ row, r = .ok row → fetched xs = [row] ∧ (counted xs).map Prod.fst = qs

namespace Looked

/-- What is executed before a lookup is a part of its statements. -/
theorem after {m : Session σ α} {k : α → Session σ (Option (List Value))} {qs₁ qs₂ : List Query}
    (hm : m.Executes qs₁) (hk : ∀ a, (k a).Tells (Looked qs₂)) :
    (m >>= k).Tells (Looked (qs₁ ++ qs₂)) := by
  refine Session.Tells.bind hm hk ?_ ?_
  · intro e xs hxs
    exact ⟨by rw [hxs.1]; exact Nat.zero_le 1, nofun⟩
  · intro xs a ys r hxs hys
    have hfetched : fetched (xs ++ ys) = fetched ys := by
      rw [fetched_append, hxs.1, List.nil_append]
    refine ⟨by rw [hfetched]; exact hys.once, ?_⟩
    intro row hrow
    obtain ⟨hys₁, hys₂⟩ := hys.answered row hrow
    refine ⟨hfetched.trans hys₁, ?_⟩
    rw [counted_append, List.map_append, hxs.2 a rfl, hys₂]

/-- A clean-up that executes nothing leaves the lookup alone. -/
theorem ensuring {m : Session σ (Option (List Value))} {cleanup : Session σ Unit}
    {qs : List Query} (hm : m.Tells (Looked qs)) (hc : cleanup.Executes []) :
    (m.ensuring cleanup).Tells (Looked qs) := by
  have hfetched : ∀ {xs ys : List Exchange}, fetched ys = [] →
      fetched (xs ++ ys) = fetched xs := by
    intro xs ys h
    rw [fetched_append, h, List.append_nil]
  refine Session.Tells.ensuring hm hc ?_ ?_
  · intro r xs ys hxs hys
    refine ⟨by rw [hfetched hys.1]; exact hxs.once, ?_⟩
    intro row hrow
    rw [hfetched hys.1, counted_append, List.map_append, hys.2 () rfl, List.append_nil]
    exact hxs.answered row hrow
  · intro r xs e ys hxs hys
    exact ⟨by rw [hfetched hys.1]; exact hxs.once, nofun⟩

/-- One row is asked for, and it is the answer. -/
theorem fetchRow : (do perform .fetchOne; takeRow : Session σ (Option (List Value))).Tells
    (Looked []) := by
  refine .of_asks meets_fetchRow ?_
  intro x hx
  cases x with
  | refused f => exact ⟨Nat.zero_le 1, nofun⟩
  | count n =>
    obtain ⟨q, hq⟩ := hx
    cases hq
  | row row =>
    refine ⟨Nat.le_refl 1, ?_⟩
    intro a ha
    cases ha
    exact ⟨rfl, rfl⟩
  | done => exact absurd rfl hx.2

/-- A query executes one statement and asks for one row. -/
theorem fetchOne (q : Query) :
    (fetchOne q : Session σ (Option (List Value))).Tells (Looked [q]) := by
  have hcarry : (Functor.discard (carryOut q) : Session σ Unit).Executes [q] := by
    refine Session.Reports.discard ((Session.Reports.carryOut q).mono ?_)
    rintro n _ rfl
    rfl
  have hcall : ∀ c, Response.done.Answers c → (perform c : Session σ Unit).Executes [] :=
    fun c hc => .call hc
  exact after (.say _ _ _) fun _ => after (hcall .cursor ⟨nofun, nofun⟩) fun _ =>
    ensuring (after hcarry fun _ => fetchRow) (hcall .closeCursor ⟨nofun, nofun⟩)

end Looked

/-- After its lookup a load follows the plan for the answer. -/
theorem Session.Follows.fulfil (w : Writer) (found : Bool) (c : OutputSettings)
    (sources : List TableRef) (sch : Schema) :
    (w.fulfil found c sources sch : Session σ CollectResult).Follows
      fun _ => w.fulfilPlan found c sources sch := by
  cases found with
  | false => exact (createTable w _ _ _ _).append fun _ => collect w c sources sch
  | true => exact silent_bind (of_silent (.pure ())) fun _ => collect w c sources sch

end

end StagedLoad

import StagedLoad.Proofs.AutoCommit
import StagedLoad.Proofs.Plan

/-!
# Definitions outside of transactions

Synapse refuses to define tables inside a transaction of the user.  So its guard asks for
auto-commit first and runs its body only when that was granted, and every definition is in a guard.
The statements that collect staging rows are in none, and the mode is restored before they start.

* `Placed` : each executed statement has its place in the plan, and the mode that it needs.
* `Session.Suited.bind`, `Session.Suited.guard` : this survives sequences, and guards provide it.
* `statements_in_mode` : it holds of every task of every run on Synapse.
-/

namespace StagedLoad

variable {σ α β : Type}

/-! ## The place of a statement -/

/-- The call is made with auto-commit on, and the operation asked for that and was granted it. -/
def SwitchedOn (before : List Event) (e : Event) : Prop :=
  e.mode.truth = true ∧ ∃ x ∈ before, x.call = .setAutoCommit true ∧ x.fault = none

/-- The mode that a statement needs on Synapse, if its operation began with the mode `start` and
made the calls `before` it: definitions need auto-commit, the collection of staging rows needs the
mode of the caller. -/
structure Suits (start : Bool) (st : Statement) (before : List Event) (e : Event) : Prop where
  definition : st.part = .definition → SwitchedOn before e
  collect : st.part = .collect → e.mode.truth = start

/-- What was done before an operation does not change what its statements need. -/
theorem Suits.prepend {start : Bool} {st : Statement} {before : List Event} {e : Event}
    (h : Suits start st before e) (es : List Event) : Suits start st (es ++ before) e where
  definition hpart := by
    obtain ⟨hmode, x, hx, hswitch⟩ := h.definition hpart
    exact ⟨hmode, x, List.mem_append_right _ hx, hswitch⟩
  collect := h.collect

/-- Each executed statement is the statement of the plan at its place, and in the mode it needs. -/
def Placed (start : Bool) (plan : List Statement) (es : List Event) : Prop :=
  ∀ before e after q, es = before ++ e :: after → e.call = .execute q →
    ∃ st, plan[(executed before).length]? = some st ∧ st.query = q ∧ Suits start st before e

section

variable [Driver σ] {s mid s' : Link σ} {es before after : List Event} {r : Except Failure α}
  {e : Event} {q : Query}

/-- The calls of the guard itself are mode changes, no statements. -/
theorem modeChange_ne_split {on : Bool} {mode : Value} {fault : Option Fault}
    (hq : e.call = .execute q) : [⟨.setAutoCommit on, mode, fault⟩] ≠ before ++ e :: after := by
  intro hsplit
  have he : e ∈ [(⟨.setAutoCommit on, mode, fault⟩ : Event)] := mem_of_split hsplit
  rw [List.mem_singleton.mp he] at hq
  cases hq

/-- A guarded body executes nothing before the switch was granted. -/
theorem Entered.switchedOn (h : Entered KeptOn s es r mid) (hes : es = before ++ e :: after)
    (hq : e.call = .execute q) : SwitchedOn before e := by
  cases h with
  | refused f hmode => exact absurd hes (modeChange_ne_split hq)
  | made hmode hkept =>
    obtain ⟨_, hinner⟩ := hkept (by rw [hmode]; rfl)
    rw [← List.singleton_append] at hes
    rcases append_split hes with ⟨rest, hswitch⟩ | ⟨front, rfl, rfl⟩
    · exact absurd hswitch (modeChange_ne_split hq)
    · have he := hinner e (mem_of_split rfl)
      exact ⟨he.1, _, List.mem_cons_self, rfl, rfl⟩

/-- What a guard executes is executed by its body, after the switch was granted. -/
theorem Around.switchedOn {prior : Bool} (h : Around prior KeptOn s es r s')
    (hes : es = before ++ e :: after) (hq : e.call = .execute q) : SwitchedOn before e := by
  cases h with
  | restored hentered _ =>
    rcases append_split hes with ⟨rest, hinside⟩ | ⟨front, _, hrestore⟩
    · exact hentered.switchedOn hinside hq
    · exact absurd hrestore (modeChange_ne_split hq)
  | broken f hentered _ =>
    rcases append_split hes with ⟨rest, hinside⟩ | ⟨front, _, hrestore⟩
    · exact hentered.switchedOn hinside hq
    · exact absurd hrestore (modeChange_ne_split hq)

end

namespace Placed

variable {start : Bool} {plan plan' : List Statement} {es es₁ es₂ : List Event}

/-- What follows a plan is placed in it, if every statement finds the mode that it needs. -/
theorem of_followed {r : Except Failure α} (h : Followed plan es r)
    (hmode : ∀ before e after q st, es = before ++ e :: after → e.call = .execute q → st ∈ plan →
      Suits start st before e) : Placed start plan es := by
  intro before e after q hes hq
  have hplace : (plan.map Statement.query)[(executed before).length]? = some q := by
    have hexecuted : executed es = executed before ++ q :: executed after := by
      rw [hes, executed_append]
      simp [executed, hq, Call.query?]
    obtain ⟨rest, hrest⟩ := h.beginning
    rw [← hrest, hexecuted, List.append_assoc, List.getElem?_append_right (Nat.le_refl _),
      Nat.sub_self]
    rfl
  rw [List.getElem?_map] at hplace
  obtain ⟨st, hst, hquery⟩ := Option.map_eq_some_iff.mp hplace
  exact ⟨st, hst, hquery, hmode before e after q st hes hq (List.mem_of_getElem? hst)⟩

/-- What has its place in a plan has it in a longer plan. -/
theorem mono (h : Placed start plan es) (hplan : plan <+: plan') : Placed start plan' es := by
  intro before e after q hes hq
  obtain ⟨st, hst, hquery, hsuits⟩ := h before e after q hes hq
  obtain ⟨rest, rfl⟩ := hplan
  obtain ⟨hlength, _⟩ := List.getElem?_eq_some_iff.mp hst
  exact ⟨st, (List.getElem?_append_left hlength).trans hst, hquery, hsuits⟩

/-- One plan carried out to its end, and another after it. -/
theorem append (h₁ : Placed start plan es₁) (hdone : executed es₁ = plan.map Statement.query)
    (h₂ : Placed start plan' es₂) : Placed start (plan ++ plan') (es₁ ++ es₂) := by
  intro before e after q hes hq
  rcases append_split hes with ⟨rest, hfirst⟩ | ⟨front, rfl, hsecond⟩
  · exact h₁.mono (List.prefix_append _ _) before e rest q hfirst hq
  · obtain ⟨st, hst, hquery, hsuits⟩ := h₂ front e after q hsecond hq
    refine ⟨st, ?_, hquery, hsuits.prepend es₁⟩
    have hlength : (executed (es₁ ++ front)).length = plan.length + (executed front).length := by
      rw [executed_append, hdone, List.length_append, List.length_map]
    rw [hlength, List.getElem?_append_right (Nat.le_add_right _ _), Nat.add_sub_cancel_left]
    exact hst

end Placed

/-- The session is put together from guarded parts, follows its plan, and executes each statement in
the mode that it needs. -/
structure Session.Suited [Driver σ] (w : Writer) (m : Session σ α)
    (plan : Link σ → List Statement) : Prop where
  guarded : Guarded w m
  follows : m.Follows plan
  placed : m.Meets fun s es _ _ => Placed s.autoCommit.truth (plan s) es

namespace Session.Suited

variable [Driver σ] {w : Writer}

/-- Outside of guards the mode is that of the caller, which does for all but definitions. -/
theorem of_plain {m : Session σ α} {p : Link σ → List Statement} (hm : Plain m)
    (hf : m.Follows p) (hp : ∀ s, ∀ st ∈ p s, st.part ≠ .definition) : m.Suited w p where
  guarded := .plain hm
  follows := hf
  placed := by
    refine (hf.and (Steady.of_plain hm)).mono ?_
    intro s es r s' h
    obtain ⟨hfollowed, _, hcalls⟩ := h
    refine .of_followed hfollowed ?_
    intro before e after q st hes _ hst
    have he : e ∈ es := mem_of_split hes
    refine ⟨?_, ?_⟩
    · intro hpart
      exact absurd hpart (hp s st hst)
    · intro _
      rw [(hcalls e he).2]

/-- **A guard provides auto-commit for all that it runs.** -/
theorem guard (hw : w.product = .synapse) {m : Session σ α} {p : Link σ → List Statement}
    (hm : Guarded w m) (hf : m.Follows p) (hp : ∀ s, ∀ st ∈ p s, st.part ≠ .collect) :
    (w.inAutoCommit m).Suited w fun s => p (w.entered s) where
  guarded := .guard hm
  follows := hf.inAutoCommit
  placed := by
    refine (hf.inAutoCommit.and (Writer.meets_inAutoCommit hw (StaysOn.of_guarded hm))).mono ?_
    intro s es r s' h
    obtain ⟨hfollowed, haround⟩ := h
    refine .of_followed hfollowed ?_
    intro before e after q st hes hq hst
    refine ⟨fun _ => haround.switchedOn hes hq, ?_⟩
    intro hpart
    exact absurd hpart (hp _ st hst)

/-- **One session after the other.**  The first one succeeded, so it carried out its plan and left
the mode as it was. -/
theorem bind {m : Session σ α} {k : α → Session σ β} {p₁ p : Link σ → List Statement}
    {p₂ : α → Link σ → List Statement} (hm : m.Suited w p₁) (hk : ∀ a, (k a).Suited w (p₂ a))
    (hstopped : ∀ s e, m.outcome s = .error e → p₁ s <+: p s)
    (hcontinued : ∀ s a, m.outcome s = .ok a → p s = p₁ s ++ p₂ a (m.after s)) :
    (m >>= k).Suited w p where
  guarded := hm.guarded.bind fun a => (hk a).guarded
  follows := hm.follows.bind (fun a => (hk a).follows) hstopped hcontinued
  placed := by
    have hfirst := (hm.placed.and hm.follows).and
      ((Faithful.of_guarded hm.guarded).and (KeepsMode.of_guarded hm.guarded))
    refine Meets.bind hfirst.exactly (fun a => (hk a).placed) ?_ ?_
    · intro s es e s' hfirst
      obtain ⟨⟨⟨hplaced, _⟩, _⟩, hr, _⟩ := hfirst
      exact hplaced.mono (hstopped s e hr.symm)
    · intro s es₁ a mid es₂ r s' hfirst hsecond
      obtain ⟨⟨⟨hplaced, hfollowed⟩, hreported, hkept⟩, hr, rfl⟩ := hfirst
      have hmode := hkept (.of_unrefused (lastFault?_eq_none.mp (hreported.ok a rfl)))
      rw [hmode] at hsecond
      rw [hcontinued s a hr.symm]
      exact hplaced.append (hfollowed.complete a rfl) hsecond

/-- What comes after a plan may be an answer only. -/
theorem bind_pure {m : Session σ α} {p : Link σ → List Statement} (hm : m.Suited w p)
    (f : α → β) : (m >>= fun a => pure (f a)).Suited w p := by
  have hanswer : ∀ a, (pure (f a) : Session σ β).Suited w fun _ => [] := by
    intro a
    exact of_plain (.pure _) (.of_silent (.pure _)) fun _ _ hst => nomatch hst
  exact hm.bind hanswer (fun _ _ _ => List.prefix_rfl) fun _ _ _ => (List.append_nil _).symm

/-- What comes before a plan may be a message only. -/
theorem say_bind {severity : Severity} {message : Text} {context : Context}
    {k : Unit → Session σ β} {p : Link σ → List Statement} (hk : (k ()).Suited w p)
    (hplan : ∀ s : Link σ, p (s.log severity message context) = p s) :
    (say severity message context >>= k).Suited w p := by
  have hsay : (say severity message context : Session σ Unit).Suited w fun _ => [] :=
    of_plain (.say _ _ _) (.of_silent (.say _ _ _)) fun _ _ hst => nomatch hst
  refine hsay.bind (fun _ => hk) (fun _ _ _ => List.nil_prefix) ?_
  intro s _ _
  exact (hplan s).symm

/-- A lookup needs no mode. -/
theorem tableExists (t : TableRef) :
    (tableExists t : Session σ Bool).Suited w fun _ => [.lookup t] := by
  refine of_plain (.working (.tableExists t)) (.tableExists t) ?_
  intro s st hst
  rw [List.mem_singleton.mp hst]
  exact nofun

/-- What comes after a lookup is suited if it is for either answer. -/
theorem lookup_bind {t : TableRef} {k : Bool → Session σ β} {p : Bool → List Statement}
    (hk : ∀ found, (k found).Suited w fun _ => p found) :
    (StagedLoad.tableExists t >>= k).Suited w fun s => .lookup t :: p (s.finds t) := by
  refine (tableExists t).bind hk ?_ ?_
  · intro s e _
    exact List.prefix_append [Statement.lookup t] _
  · intro s found hfound
    rw [Link.finds_of_ok hfound]
    rfl

end Session.Suited

/-! ## What the statements of the plans are for -/

/-- A statement that is not missing is for what it was given for. -/
theorem Statement.part_of_mem_optional {part : Part} {sql : Option Text} {st : Statement}
    (h : st ∈ Statement.optional part sql) : st.part = part := by
  rcases sql with _ | _ | ⟨c, cs⟩
  · cases h
  · cases h
  · rw [List.mem_singleton.mp h]
    rfl

namespace Writer

variable {w : Writer} {st : Statement}

/-- A creation is a definition. -/
theorem part_of_mem_createPlan {t : TableRef} {sch : Schema}
    {tableConstraint tableOption : Option Text}
    (h : st ∈ w.createPlan t sch tableConstraint tableOption) : st.part = .definition := by
  rw [List.mem_singleton.mp h]
  rfl

theorem part_of_mem_dropPlan {t : TableRef} (h : st ∈ w.dropPlan t) : st.part = .definition := by
  rw [List.mem_singleton.mp h]
  rfl

/-- All statements of an insertion collect staging rows. -/
theorem part_of_mem_insertPlan {sources : List TableRef} {sch : Schema} {target : TableRef}
    {truncateFirst : Bool} {preSql postSql : Option Text}
    (h : st ∈ w.insertPlan sources sch target truncateFirst preSql postSql) :
    st.part = .collect := by
  rcases List.mem_append.mp h with h | h
  · cases truncateFirst with
    | false => cases h
    | true =>
      rw [List.mem_singleton.mp h]
      rfl
  rcases List.mem_append.mp h with h | h
  · exact Statement.part_of_mem_optional h
  rcases List.mem_cons.mp h with rfl | h
  · rfl
  · exact Statement.part_of_mem_optional h

/-- All statements of a merge collect staging rows. -/
theorem part_of_mem_mergePlan {sources : List TableRef} {sch : Schema} {target : TableRef}
    {m : MergeSpec} {strategy : MergeStrategy} {preSql postSql : Option Text}
    (h : st ∈ w.mergePlan sources sch target m strategy preSql postSql) : st.part = .collect := by
  rcases List.mem_append.mp h with h | h
  · exact Statement.part_of_mem_optional h
  rcases List.mem_append.mp h with h | h
  · obtain ⟨_, _, rfl⟩ := List.mem_map.mp h
    rfl
  · exact Statement.part_of_mem_optional h

theorem part_of_mem_collectPlan {c : OutputSettings} {sources : List TableRef} {sch : Schema}
    (h : st ∈ w.collectPlan c sources sch) : st.part = .collect := by
  unfold collectPlan at h
  cases hc : c.merge with
  | none =>
    rw [hc] at h
    exact part_of_mem_insertPlan h
  | some m =>
    rw [hc] at h
    exact part_of_mem_mergePlan h

variable {σ : Type} [Driver σ]

/-- A replacement collects nothing: it looks up, drops, renames, and runs what it was given. -/
theorem part_of_mem_replacePlan {s : Link σ} {source target : TableRef} {postSql : Option Text}
    (h : st ∈ w.replacePlan s source target postSql) : st.part ≠ .collect := by
  rcases List.mem_append.mp h with h | h
  · rcases List.mem_cons.mp h with rfl | h
    · exact nofun
    · split at h
      · rw [part_of_mem_dropPlan h]
        exact nofun
      · cases h
  · rcases List.mem_cons.mp h with rfl | h
    · exact nofun
    · rw [Statement.part_of_mem_optional h]
      exact nofun

end Writer

/-! ## The tasks -/

namespace Session.Suited

variable [Driver σ] {w : Writer}

/-- A creation is in the guard. -/
theorem createTable (hw : w.product = .synapse) (t : TableRef) (sch : Schema)
    (tableConstraint tableOption : Option Text) :
    (w.createTable t sch tableConstraint tableOption : Session σ Unit).Suited w
      fun _ => w.createPlan t sch tableConstraint tableOption := by
  refine say_bind (guard hw (.plain (.createTableAs _ _ _ _ _ _))
    (Follows.createTableAs w t sch tableConstraint tableOption) ?_) fun _ => rfl
  intro s st hst
  rw [Writer.part_of_mem_createPlan hst]
  exact nofun

/-- A drop is in the guard. -/
theorem dropTable (hw : w.product = .synapse) (t : TableRef) :
    (w.dropTable t : Session σ Unit).Suited w fun _ => w.dropPlan t := by
  refine guard hw (.working w (Working.run _).discard) (Follows.run .definition _).discard ?_
  intro s st hst
  rw [Writer.part_of_mem_dropPlan hst]
  exact nofun

/-- The drop is in the guard; the lookup before it needs none. -/
theorem dropTableIfExists (hw : w.product = .synapse) (t : TableRef) :
    (w.dropTableIfExists t : Session σ Unit).Suited w fun s => w.dropIfExistsPlan s t := by
  refine lookup_bind (p := fun found => if found then w.dropPlan t else []) ?_
  intro found
  cases found with
  | false => exact of_plain (.pure ()) (.of_silent (.pure ())) fun _ _ hst => nomatch hst
  | true => exact dropTable hw t

/-- The whole replacement is in the guard, and the drop in a guard inside of it. -/
theorem replaceTable (hw : w.product = .synapse) (source target : TableRef)
    (postSql : Option Text) :
    (w.replaceTable source target postSql : Session σ Unit).Suited w
      fun s => w.replacePlan (w.entered s) source target postSql := by
  refine say_bind (guard hw (.replaceBody w source target postSql)
    (Follows.replaceBody w source target postSql) ?_) ?_
  · intro s st hst
    exact Writer.part_of_mem_replacePlan hst
  · intro s
    exact w.replacePlan_entered_log s source target postSql _ _ _

/-- Sessions that collect staging rows are in no guard. -/
theorem of_collect {m : Session σ α} {p : List Statement} (hm : Plain m) (hf : m.Follows fun _ => p)
    (hp : ∀ st ∈ p, st.part = .collect) : m.Suited w fun _ => p := by
  refine of_plain hm hf ?_
  intro s st hst
  rw [hp st hst]
  exact nofun

/-- A load creates its target in the guard. -/
theorem prepare (hw : w.product = .synapse) (c : OutputSettings) (sch : Schema) :
    (w.prepare c sch : Session σ Unit).Suited w fun s => w.preparePlan s c sch := by
  refine lookup_bind (p := fun found =>
    if found then [] else w.createPlan c.target sch c.tableConstraint c.tableOption) ?_
  intro found
  cases found with
  | false => exact createTable hw _ _ _ _
  | true => exact of_plain (.pure ()) (.of_silent (.pure ())) fun _ _ hst => nomatch hst

/-- **A load defines its target, and collects in the mode of the caller afterwards.** -/
theorem load (hw : w.product = .synapse) (c : OutputSettings) (sources : List TableRef)
    (sch : Schema) :
    (w.load c sources sch : Session σ CollectResult).Suited w
      fun s => w.preparePlan s c sch ++ w.collectPlan c sources sch := by
  have hcollect : (w.collect c sources sch : Session σ CollectResult).Suited w
      fun _ => w.collectPlan c sources sch :=
    of_collect (.collect w c sources sch) (.collect w c sources sch) fun st hst =>
      Writer.part_of_mem_collectPlan hst
  rw [w.load_eq]
  exact (prepare hw c sch).bind (fun _ => hcollect) (fun _ _ _ => List.prefix_append _ _)
    fun _ _ _ => rfl

/-- A statement of the caller is neither a definition nor a part of a collection. -/
theorem single {m : Session σ α} {q : Query} (hm : Working m)
    (hf : m.Follows fun _ => [⟨.other, q⟩]) : m.Suited w fun _ => [⟨.other, q⟩] := by
  refine of_plain (.working hm) hf ?_
  intro s st hst
  rw [List.mem_singleton.mp hst]
  exact nofun

end Session.Suited

/-- **Every task on Synapse executes its plan in the modes that it needs.** -/
theorem Task.perform_suited [Driver σ] {w : Writer} (hw : w.product = .synapse) (t : Task) :
    (t.perform w : Session σ Answer).Suited w fun s => t.plan w s := by
  cases t with
  | createTable t sch tableConstraint tableOption =>
    exact (Session.Suited.createTable hw _ _ _ _).bind_pure _
  | dropTable t => exact (Session.Suited.dropTable hw _).bind_pure _
  | dropTableIfExists t => exact (Session.Suited.dropTableIfExists hw _).bind_pure _
  | replaceTable source target postSql => exact (Session.Suited.replaceTable hw _ _ _).bind_pure _
  | collectInsert sources sch target truncateFirst preSql postSql =>
    exact (Session.Suited.of_collect (.collectInsert w _ _ _ _ _ _) (.collectInsert w _ _ _ _ _ _)
      fun st hst => Writer.part_of_mem_insertPlan hst).bind_pure _
  | collectMerge sources sch target m strategy preSql postSql =>
    exact (Session.Suited.of_collect (.collectMerge w _ _ _ _ _ _ _) (.collectMerge w _ _ _ _ _ _ _)
      fun st hst => Writer.part_of_mem_mergePlan hst).bind_pure _
  | load c sources sch => exact (Session.Suited.load hw _ _ _).bind_pure _
  | tableExists t => exact (Session.Suited.tableExists t).bind_pure _
  | execute q => exact (Session.Suited.single (.execute q) (.execute .other q)).bind_pure _
  | fetchOne q => exact (Session.Suited.single (.fetchOne q) (.fetchOne .other q)).bind_pure _
  | commitIfNecessary =>
    have hcommit : (StagedLoad.commitIfNecessary : Session σ Unit).Suited w fun _ => [] :=
      .of_plain .commitIfNecessary .commitIfNecessary fun _ _ hst => nomatch hst
    exact hcommit.bind_pure _

/-- **Definitions run outside of transactions, collections run in the mode of the caller.**  On
Synapse, in every run of tasks, with every driver: a statement that a task executes is the statement
of its plan at that place, and no call of the task before it was refused.  If it creates, drops or
renames a table, auto-commit is on and the task was granted the switch.  If it belongs to the
collection of staging rows, auto-commit is as the task found it. -/
theorem statements_in_mode [Driver σ] (w : Writer) (hw : w.product = .synapse) (tasks : List Task)
    (s : Link σ) :
    ∀ st ∈ stages (Task.perform w) tasks s, ∀ before e after q,
      st.events = before ++ e :: after → e.call = .execute q →
      (∀ x ∈ before, x.fault = none) ∧
      ∃ statement, (st.act.plan w st.before)[(executed before).length]? = some statement ∧
        statement.query = q ∧
        (statement.part = .definition → e.mode.truth = true ∧
          ∃ x ∈ before, x.call = .setAutoCommit true ∧ x.fault = none) ∧
        (statement.part = .collect → e.mode.truth = st.before.autoCommit.truth) := by
  refine forall_stages ?_ tasks s
  intro t s before e after q hes hq
  obtain ⟨statement, hplace, hquery, hsuits⟩ :=
    (Task.perform_suited hw t).placed.issued s before e after q hes hq
  have hhalted := ((Session.Faithful.of_guarded (t.perform_guarded w)).issued s).halted
  refine ⟨?_, statement, hplace, hquery, hsuits.definition, hsuits.collect⟩
  change ((t.perform w).issued s) = _ at hes
  rw [hes] at hhalted
  exact hhalted.accepted_before (by rw [hq]; rfl)

/-- A table is dropped with auto-commit on, though the link has it off. -/
theorem drop_is_switched_on :
    let w : Writer := { product := .synapse }
    let t : Task := .dropTable (.make "t" none none)
    let s : Link Script := { driver := {}, autoCommit := .int 0 }
    ∃ before e after, (t.perform w).issued s = before ++ e :: after ∧
      e.call = .execute { sql := "DROP TABLE \x22t\x22" } ∧ e.mode.truth = true := by
  intro w t s
  have hissued : (stage (Task.perform w) t s).events =
      [⟨.setAutoCommit true, .int 0, none⟩, ⟨.cursor, .bool true, none⟩] ++
        ⟨.execute { sql := "DROP TABLE \x22t\x22" }, .bool true, none⟩ ::
          [⟨.closeCursor, .bool true, none⟩, ⟨.setAutoCommit false, .bool true, none⟩] := rfl
  obtain ⟨_, statement, hplace, _, hdefinition, _⟩ :=
    statements_in_mode w rfl [t] s _ List.mem_cons_self _ _ _ _ hissued rfl
  refine ⟨_, _, _, hissued, rfl, (hdefinition ?_).1⟩
  cases hplace
  rfl

end StagedLoad

import StagedLoad.Proofs.Fault

/-!
# The mode is kept

Only the guard of a writer changes the auto-commit value of the connection, and on every way out it
asks for the value that was there before.  The one way to lose the value is that this last call is
refused.  The body of a guard may do what it likes meanwhile: the guard reads the value before it
starts and does not look at what the body left.

* `Session.Steady` : sessions that never touch the value.
* `Session.KeepsMode` : unless the last mode change was refused, the truth of the value is kept.
* `autoCommit_kept` : every operation of every run keeps the mode.
-/

namespace StagedLoad

variable {σ α β : Type}

/-- Whether the call sets the auto-commit value. -/
def Call.isModeChange : Call → Bool
  | .setAutoCommit _ => true
  | _ => false

/-! ## The guard -/

/-- On SQL Server the guard does nothing. -/
theorem Writer.inAutoCommit_of_sqlServer [Driver σ] {w : Writer} (hw : w.product = .sqlServer)
    (m : Session σ α) : w.inAutoCommit m = m := by
  unfold Writer.inAutoCommit
  rw [hw]

section

variable [Driver σ]

/-- A guarded body up to its clean-up: if auto-commit is refused, the body is left out, and
otherwise it runs on a link with auto-commit on. -/
inductive Entered (P : Contract σ α) (s : Link σ) :
    List Event → Except Failure α → Link σ → Prop where
  | refused (f : Fault) {mid : Link σ} (hmode : mid.autoCommit = s.autoCommit) :
      Entered P s [⟨.setAutoCommit true, s.autoCommit, some f⟩] (.error (.fault f)) mid
  | made {inner : List Event} {r : Except Failure α} {mid : Link σ}
      (hmode : ((setAutoCommit true).after s).autoCommit = .bool true)
      (hbody : P ((setAutoCommit true).after s) inner r mid) :
      Entered P s (⟨.setAutoCommit true, s.autoCommit, none⟩ :: inner) r mid

/-- **All that a guard can do on Synapse.**  In the end it asks for the mode that was there before,
and if this is refused, it is the fault of the whole. -/
inductive Around (before : Bool) (P : Contract σ α) (s : Link σ) :
    List Event → Except Failure α → Link σ → Prop where
  | restored {es : List Event} {r : Except Failure α} {mid s' : Link σ} (h : Entered P s es r mid)
      (hmode : s'.autoCommit = .bool before) :
      Around before P s (es ++ [⟨.setAutoCommit before, mid.autoCommit, none⟩]) r s'
  | broken (f : Fault) {es : List Event} {r : Except Failure α} {mid s' : Link σ}
      (h : Entered P s es r mid) (hmode : s'.autoCommit = mid.autoCommit) :
      Around before P s (es ++ [⟨.setAutoCommit before, mid.autoCommit, some f⟩])
        (.error (.fault f)) s'

/-- **The guard on Synapse is what `Around` says**, for every body with a contract. -/
theorem Writer.meets_inAutoCommit {w : Writer} (hw : w.product = .synapse) {m : Session σ α}
    {P : Contract σ α} (hm : m.Meets P) :
    (w.inAutoCommit m).Meets fun s => Around s.autoCommit.truth P s := by
  have hbody : (do setAutoCommit true; m : Session σ α).Meets (Entered P) := by
    refine (meets_setAutoCommit true).exactly.bind (fun _ => hm) ?_ ?_
    · intro s es e mid hset
      rcases hset with ⟨⟨_ | f, rfl, hr, hmode⟩, _, rfl⟩
      · cases hr
      · cases hr
        exact .refused f hmode
    · intro s es₁ a mid es₂ r s' hset hP
      rcases hset with ⟨⟨_ | f, rfl, hr, hmode⟩, _, rfl⟩
      · exact .made hmode hP
      · cases hr
  unfold Writer.inAutoCommit
  rw [hw]
  intro s
  refine (hbody.ensuring (meets_setAutoCommit s.autoCommit.truth) ?_ ?_ :
    (Session.ensuring _ _).Meets (Around s.autoCommit.truth P)) s
  · intro s es₁ r mid es₂ s' hentered hset
    rcases hset with ⟨_ | f, rfl, hr, hmode⟩
    · exact .restored hentered hmode
    · cases hr
  · intro s es₁ r mid es₂ e s' hentered hset
    rcases hset with ⟨_ | f, rfl, hr, hmode⟩
    · cases hr
    · cases hr
      exact .broken f hentered hmode

end

/-! ## Sessions that leave the mode alone -/

/-- The auto-commit value is not touched: no call changes it, all calls are made under it, and it is
the same in the end. -/
def Undisturbed : Contract σ α := fun s es _ s' =>
  s'.autoCommit = s.autoCommit ∧
    ∀ e ∈ es, e.call.isModeChange = false ∧ e.mode = s.autoCommit

/-- The session never touches the auto-commit value. -/
def Session.Steady (m : Session σ α) : Prop := m.Meets Undisturbed

/-- Two parts that leave the value alone do so together. -/
theorem Undisturbed.append {γ : Type} {s mid s' : Link σ} {es₁ es₂ : List Event}
    {r₁ : Except Failure α} {r₂ : Except Failure β} {r : Except Failure γ}
    (h₁ : Undisturbed s es₁ r₁ mid) (h₂ : Undisturbed mid es₂ r₂ s') :
    Undisturbed s (es₁ ++ es₂) r s' := by
  refine ⟨h₂.1.trans h₁.1, ?_⟩
  intro e he
  rcases List.mem_append.mp he with he | he
  · exact h₁.2 e he
  · have h := h₂.2 e he
    exact ⟨h.1, h.2.trans h₁.1⟩

namespace Session.Steady

/-- A silent session leaves the value alone. -/
theorem of_silent {m : Session σ α} (hm : m.Silent) : m.Steady :=
  Meets.of_silent hm fun _ hmode => ⟨hmode, fun _ he => nomatch he⟩

/-- Steady sessions in sequence are steady. -/
theorem bind {m : Session σ α} {k : α → Session σ β} (hm : m.Steady) (hk : ∀ a, (k a).Steady) :
    (m >>= k).Steady :=
  Meets.bind hm hk (fun h => h) fun h₁ h₂ => h₁.append h₂

theorem ensuring {m : Session σ α} {cleanup : Session σ Unit} (hm : m.Steady)
    (hc : cleanup.Steady) : (m.ensuring cleanup).Steady :=
  Meets.ensuring hm hc (fun h₁ h₂ => h₁.append h₂) fun h₁ h₂ => h₁.append h₂

variable [Driver σ]

/-- Every call but a mode change leaves the value alone. -/
theorem perform {c : Call} (hc : c.isModeChange = false) :
    (perform c : Session σ Unit).Steady := by
  refine (meets_perform c).mono ?_
  intro s es r s' hcall
  obtain ⟨fault, rfl, hmode, _⟩ := hcall
  refine ⟨hmode, ?_⟩
  intro e he
  rw [List.mem_singleton.mp he]
  exact ⟨hc, rfl⟩

/-- What is done on an open cursor leaves the value alone. -/
theorem of_onCursor {m : Session σ α} (hm : OnCursor m) : m.Steady := by
  induction hm with
  | silent hm => exact of_silent hm
  | execute q => exact perform rfl
  | fetchOne => exact perform rfl
  | bind _ _ ihm ihk => exact ihm.bind ihk

/-- A commit leaves the value alone. -/
theorem commitIfNecessary : (commitIfNecessary : Session σ Unit).Steady := by
  refine (of_silent .getAutoCommit).bind fun on => ?_
  cases on with
  | false => exact perform rfl
  | true => exact of_silent (.pure ())

/-- Working sessions leave the value alone. -/
theorem of_working {m : Session σ α} (hm : Working m) : m.Steady := by
  induction hm with
  | silent hm => exact of_silent hm
  | withCursor hm => exact (perform rfl).bind fun _ => (of_onCursor hm).ensuring (perform rfl)
  | bind _ _ ihm ihk => exact ihm.bind ihk

/-- Plain sessions leave the mode alone. -/
theorem of_plain {m : Session σ α} (hm : Plain m) : m.Steady := by
  induction hm with
  | working hm => exact of_working hm
  | commitIfNecessary => exact commitIfNecessary
  | bind _ _ ihm ihk => exact ihm.bind ihk
  | reporting severity message context _ ih => exact Meets.observing ih (fun _ _ => rfl) fun h => h

/-- On SQL Server guarded sessions leave the mode alone, for the guard does nothing there. -/
theorem of_guarded {w : Writer} (hw : w.product = .sqlServer) {m : Session σ α}
    (hm : Guarded w m) : m.Steady := by
  induction hm with
  | plain hm => exact of_plain hm
  | bind _ _ ihm ihk => exact ihm.bind ihk
  | guard _ ih =>
    rw [Writer.inAutoCommit_of_sqlServer hw]
    exact ih

end Session.Steady

/-! ## Sessions that restore the mode -/

/-- The last call that set the auto-commit value. -/
def lastModeChange? (es : List Event) : Option Event :=
  (es.filter fun e => e.call.isModeChange).getLast?

/-- The last mode change, if there was one, was not refused. -/
def Settled (es : List Event) : Prop := ∀ e, lastModeChange? es = some e → e.fault = none

/-- The last mode change is looked for in the second part first. -/
theorem lastModeChange?_append (es₁ es₂ : List Event) :
    lastModeChange? (es₁ ++ es₂) = (lastModeChange? es₂).or (lastModeChange? es₁) := by
  rw [lastModeChange?, List.filter_append, List.getLast?_append]
  rfl

/-- The last part of settled calls is settled by itself. -/
theorem Settled.right {es₁ es₂ : List Event} (h : Settled (es₁ ++ es₂)) : Settled es₂ := by
  intro e he
  apply h
  rw [lastModeChange?_append, he, Option.some_or]

/-- Where nothing was refused, no mode change was. -/
theorem Settled.of_unrefused {es : List Event} (h : ∀ e ∈ es, e.fault = none) : Settled es := by
  intro e he
  exact h e (List.mem_filter.mp (List.mem_of_getLast? he)).1

/-- Unless its last mode change was refused, the session leaves the truth of the auto-commit value
as it was. -/
def Session.KeepsMode (m : Session σ α) : Prop :=
  m.Meets fun s es _ s' => Settled es → s'.autoCommit.truth = s.autoCommit.truth

/-- A session that does not take back what it did on the trace. -/
def Session.Grows (m : Session σ α) : Prop := m.Meets fun _ _ _ _ => True

namespace Session.KeepsMode

/-- A session that never touches the value keeps the mode. -/
theorem of_steady {m : Session σ α} (hm : m.Steady) : m.KeepsMode :=
  hm.mono fun h _ => congrArg Value.truth h.1

/-- A session that succeeds refused nothing, so the mode is settled before the next one starts. -/
theorem bind {m : Session σ α} {k : α → Session σ β} (hf : m.Faithful) (hm : m.KeepsMode)
    (hk : ∀ a, (k a).KeepsMode) : (m >>= k).KeepsMode := by
  refine Meets.bind (hf.and hm) hk (fun h => h.2) ?_
  intro s es₁ a mid es₂ r s' ⟨hreported, hkept⟩ h₂ hsettled
  have hfirst : Settled es₁ := .of_unrefused (lastFault?_eq_none.mp (hreported.ok a rfl))
  exact (h₂ hsettled.right).trans (hkept hfirst)

/-- **A guard keeps the mode whatever its body does.**  The restoring call is the last one. -/
theorem inAutoCommit [Driver σ] {w : Writer} (hw : w.product = .synapse) {m : Session σ α}
    (hm : m.Grows) : (w.inAutoCommit m).KeepsMode := by
  refine (Writer.meets_inAutoCommit hw hm).mono ?_
  intro s es r s' haround hsettled
  cases haround with
  | restored _ hmode =>
    rw [hmode]
    rfl
  | broken f _ _ => cases hsettled.right _ rfl

/-- Guarded sessions keep the mode. -/
theorem of_guarded [Driver σ] {w : Writer} {m : Session σ α} (hm : Guarded w m) :
    m.KeepsMode := by
  cases hw : w.product with
  | sqlServer => exact of_steady (.of_guarded hw hm)
  | synapse =>
    induction hm with
    | plain hm => exact of_steady (.of_plain hm)
    | bind hm _ ihm ihk => exact ihm.bind (.of_guarded hm) ihk
    | guard hm _ => exact inAutoCommit hw ((Faithful.of_guarded hm).mono fun _ => trivial)

end Session.KeepsMode

/-! ## Operations and runs -/

/-- What a guard can be put around: any computation, guards inside and mode changes of its own
included, as long as it does not take back what is on the trace. -/
structure Body (σ : Type) where
  run : Session σ Answer
  grows : run.Grows

/-- An operation of a writer for a product: a task, or on Synapse a guard around a body. -/
inductive Act (σ : Type) (p : Product) where
  | task (t : Task)
  | guard (synapse : p = .synapse) (body : Body σ)

section

variable [Driver σ] (w : Writer)

/-- Carries out an operation. -/
def Act.perform : Act σ w.product → Session σ Answer
  | task t => t.perform w
  | guard _ body => w.inAutoCommit body.run

/-- Every operation keeps the mode, be it a task or a guard around any body. -/
theorem Act.perform_keepsMode (a : Act σ w.product) : (a.perform w).KeepsMode := by
  cases a with
  | task t => exact .of_guarded (t.perform_guarded w)
  | guard synapse body => exact .inAutoCommit synapse body.grows

/-- On SQL Server no operation touches the value. -/
theorem Act.perform_steady (hw : w.product = .sqlServer) (a : Act σ w.product) :
    (a.perform w).Steady := by
  cases a with
  | task t => exact .of_guarded hw (t.perform_guarded w)
  | guard synapse body => cases hw.symm.trans synapse

/-- **Every operation of every run keeps the mode.**  Whatever is refused and however an operation
ends: unless the last mode change that it asked for was refused, auto-commit is on after it exactly
if it was on before.  So a run without such an operation leaves the mode as it was.  On SQL Server
no operation asks for a mode change at all, and the value itself stays. -/
theorem autoCommit_kept (acts : List (Act σ w.product)) (s : Link σ) :
    (∀ st ∈ stages (Act.perform w) acts s, Settled st.events →
      st.after.autoCommit.truth = st.before.autoCommit.truth) ∧
    ((∀ st ∈ stages (Act.perform w) acts s, Settled st.events) →
      (finish (Act.perform w) acts s).autoCommit.truth = s.autoCommit.truth) ∧
    (w.product = .sqlServer →
      (∀ st ∈ stages (Act.perform w) acts s,
        (∀ e ∈ st.events, e.call.isModeChange = false) ∧
          st.after.autoCommit = st.before.autoCommit) ∧
      (finish (Act.perform w) acts s).autoCommit = s.autoCommit) := by
  have hstep : ∀ (a : Act σ w.product) (s : Link σ), Settled ((a.perform w).issued s) →
      ((a.perform w).after s).autoCommit.truth = s.autoCommit.truth :=
    fun a s => (a.perform_keepsMode w).issued s
  refine ⟨forall_stages hstep acts s, ?_, ?_⟩
  · induction acts generalizing s with
    | nil => exact fun _ => rfl
    | cons a acts ih =>
      intro hsettled
      have hhead := hstep a s (hsettled _ List.mem_cons_self)
      have htail := ih _ fun st hst => hsettled st (List.mem_cons_of_mem _ hst)
      exact htail.trans hhead
  · intro hw
    have hsteady : ∀ (a : Act σ w.product) (s : Link σ),
        Undisturbed s ((a.perform w).issued s) ((a.perform w).outcome s) ((a.perform w).after s) :=
      fun a s => (a.perform_steady w hw).issued s
    refine ⟨forall_stages (fun a s => ?_) acts s, ?_⟩
    · exact ⟨fun e he => ((hsteady a s).2 e he).1, (hsteady a s).1⟩
    · induction acts generalizing s with
      | nil => rfl
      | cons a acts ih => exact (ih _).trans (hsteady a s).1

end

/-- Only the truth of the value comes back: `0` is `False` after a guard. -/
example :
    let w : Writer := { product := .synapse }
    let s : Link Script := { driver := {}, autoCommit := .int 0 }
    let body : Session Script Unit := w.inAutoCommit (setAutoCommit false)
    ((w.inAutoCommit body).after s).autoCommit = .bool false := rfl

end StagedLoad

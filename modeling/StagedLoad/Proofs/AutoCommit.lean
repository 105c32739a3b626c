import StagedLoad.Proofs.Mode

/-!
# With auto-commit on

What starts with auto-commit on keeps it on and commits nothing, for a commit is made only where it
is necessary.  The guard on Synapse switches it on for its body, so nothing is committed in a guard
whatever the mode was before.

* `Session.StaysOn.of_guarded` : with auto-commit on every task keeps it on and commits nothing.
* `Session.Calls.uncommitted_of_guard` : a guard commits nothing.
-/

namespace StagedLoad

variable {σ α β : Type}

namespace Session.Calls

variable [Driver σ]

/-- Nothing is committed on a cursor. -/
theorem uncommitted_of_onCursor {m : Session σ α} (hm : OnCursor m) :
    m.Calls fun e => e.call ≠ .commit := by
  induction hm with
  | silent hm => exact of_silent hm
  | execute q => exact perform fun _ _ => nofun
  | fetchOne => exact perform fun _ _ => nofun
  | bind _ _ ihm ihk => exact ihm.bind ihk

/-- Working sessions commit nothing. -/
theorem uncommitted_of_working {m : Session σ α} (hm : Working m) :
    m.Calls fun e => e.call ≠ .commit := by
  induction hm with
  | silent hm => exact of_silent hm
  | withCursor hm =>
    exact (perform fun _ _ => nofun).bind fun _ =>
      (uncommitted_of_onCursor hm).ensuring (perform fun _ _ => nofun)
  | bind _ _ ihm ihk => exact ihm.bind ihk

end Session.Calls

/-! ## With auto-commit on -/

/-- Started with auto-commit on, everything is done with it on, and nothing is committed. -/
def KeptOn : Contract σ α := fun s es _ s' => s.autoCommit.truth = true →
  s'.autoCommit.truth = true ∧ ∀ e ∈ es, e.mode.truth = true ∧ e.call ≠ .commit

/-- Started with auto-commit on, the session keeps it on and commits nothing. -/
def Session.StaysOn (m : Session σ α) : Prop := m.Meets KeptOn

/-- Two parts that keep auto-commit on do so together. -/
theorem KeptOn.append {γ : Type} {s mid s' : Link σ} {es₁ es₂ : List Event}
    {r₁ : Except Failure α} {r₂ : Except Failure β} {r : Except Failure γ}
    (h₁ : KeptOn s es₁ r₁ mid) (h₂ : KeptOn mid es₂ r₂ s') : KeptOn s (es₁ ++ es₂) r s' := by
  intro hon
  obtain ⟨hmid, hcalls₁⟩ := h₁ hon
  obtain ⟨hlast, hcalls₂⟩ := h₂ hmid
  exact ⟨hlast, List.forall_mem_append.mpr ⟨hcalls₁, hcalls₂⟩⟩

/-- A mode change with auto-commit on before and after. -/
theorem KeptOn.modeChange {s s' : Link σ} {on : Bool} {fault : Option Fault} {r : Except Failure α}
    (hmode : s.autoCommit.truth = true → s'.autoCommit.truth = true) :
    KeptOn s [⟨.setAutoCommit on, s.autoCommit, fault⟩] r s' := by
  intro hon
  refine ⟨hmode hon, ?_⟩
  intro e he
  rw [List.mem_singleton.mp he]
  exact ⟨hon, nofun⟩

section

variable [Driver σ] {before : Bool} {s mid s' : Link σ} {es : List Event} {r : Except Failure α}

/-- A guarded body up to its clean-up. -/
theorem Entered.keptOn (h : Entered KeptOn s es r mid) : KeptOn s es r mid := by
  cases h with
  | refused f hmode =>
    refine .modeChange ?_
    intro hon
    rw [hmode]
    exact hon
  | made hmode hbody =>
    have hswitch : KeptOn s [⟨.setAutoCommit true, s.autoCommit, none⟩] (.ok ())
        ((setAutoCommit true).after s) := by
      refine .modeChange ?_
      intro _
      rw [hmode]
      rfl
    exact hswitch.append hbody

/-- A guard that was entered with auto-commit on. -/
theorem Around.keptOn (h : Around true KeptOn s es r s') : KeptOn s es r s' := by
  cases h with
  | restored hentered hmode =>
    refine hentered.keptOn.append (.modeChange ?_ : KeptOn _ _ (.ok ()) s')
    intro _
    rw [hmode]
    rfl
  | broken f hentered hmode =>
    refine hentered.keptOn.append (.modeChange ?_ : KeptOn _ _ (.ok ()) s')
    intro hon
    rw [hmode]
    exact hon

/-- A mode change is no commit. -/
theorem modeChange_uncommitted {on : Bool} {mode : Value} {fault : Option Fault} :
    ∀ e ∈ [(⟨.setAutoCommit on, mode, fault⟩ : Event)], e.call ≠ .commit := by
  intro e he
  rw [List.mem_singleton.mp he]
  exact nofun

/-- A guarded body commits nothing: it runs with auto-commit on, if at all. -/
theorem Entered.uncommitted (h : Entered KeptOn s es r mid) : ∀ e ∈ es, e.call ≠ .commit := by
  cases h with
  | refused f hmode => exact modeChange_uncommitted
  | made hmode hkept =>
    obtain ⟨_, hinner⟩ := hkept (by rw [hmode]; rfl)
    rw [← List.singleton_append]
    refine List.forall_mem_append.mpr ⟨modeChange_uncommitted, ?_⟩
    intro e he
    exact (hinner e he).2

/-- Whatever the mode was before, a guard commits nothing. -/
theorem Around.uncommitted (h : Around before KeptOn s es r s') : ∀ e ∈ es, e.call ≠ .commit := by
  cases h with
  | restored hentered _ =>
    exact List.forall_mem_append.mpr ⟨hentered.uncommitted, modeChange_uncommitted⟩
  | broken f hentered _ =>
    exact List.forall_mem_append.mpr ⟨hentered.uncommitted, modeChange_uncommitted⟩

end

namespace Session.StaysOn

/-- A session that neither changes the mode nor commits. -/
theorem of_steady {m : Session σ α} (hm : m.Steady)
    (hc : m.Calls fun e => e.call ≠ .commit) : m.StaysOn := by
  refine (hm.and hc).mono ?_
  intro s es r s' h hon
  obtain ⟨⟨hmode, hcalls⟩, hcommit⟩ := h
  rw [hmode]
  refine ⟨hon, ?_⟩
  intro e he
  rw [(hcalls e he).2]
  exact ⟨hon, hcommit e he⟩

/-- Sessions in sequence keep auto-commit on if each one does. -/
theorem bind {m : Session σ α} {k : α → Session σ β} (hm : m.StaysOn)
    (hk : ∀ a, (k a).StaysOn) : (m >>= k).StaysOn :=
  Meets.bind hm hk (fun h => h) fun h₁ h₂ => h₁.append h₂

variable [Driver σ]

/-- With auto-commit on a commit is not necessary. -/
theorem commitIfNecessary : (commitIfNecessary : Session σ Unit).StaysOn := by
  intro s
  cases hon : s.autoCommit.truth with
  | true =>
    refine ⟨[], ?_, ?_⟩
    · rw [after, commitIfNecessary_of_on hon, List.append_nil]
    · intro _
      rw [after, commitIfNecessary_of_on hon]
      refine ⟨hon, ?_⟩
      intro e he
      cases he
  | false =>
    obtain ⟨es, htrace, _⟩ := Steady.commitIfNecessary s
    refine ⟨es, htrace, ?_⟩
    intro h
    cases hon.symm.trans h

/-- **With auto-commit on, a plain session commits nothing.** -/
theorem of_plain {m : Session σ α} (hm : Plain m) : m.StaysOn := by
  induction hm with
  | working hm => exact of_steady (.of_working hm) (.uncommitted_of_working hm)
  | commitIfNecessary => exact commitIfNecessary
  | bind _ _ ihm ihk => exact ihm.bind ihk
  | reporting severity message context _ ih => exact Meets.observing ih (fun _ _ => rfl) fun h => h

/-- **With auto-commit on, guards change nothing**: they ask for what is there already. -/
theorem of_guarded {w : Writer} {m : Session σ α} (hm : Guarded w m) : m.StaysOn := by
  induction hm with
  | plain hm => exact of_plain hm
  | bind _ _ ihm ihk => exact ihm.bind ihk
  | guard hm ih =>
    cases hw : w.product with
    | sqlServer =>
      rw [Writer.inAutoCommit_of_sqlServer hw]
      exact ih
    | synapse =>
      refine (Writer.meets_inAutoCommit hw ih).mono ?_
      intro s es r s' haround hon
      rw [hon] at haround
      exact haround.keptOn hon

end Session.StaysOn

/-- **A guard on Synapse commits nothing**, whatever the mode was before. -/
theorem Session.Calls.uncommitted_of_guard [Driver σ] {w : Writer} (hw : w.product = .synapse)
    {m : Session σ α} (hm : Guarded w m) :
    (w.inAutoCommit m).Calls fun e => e.call ≠ .commit :=
  (Writer.meets_inAutoCommit hw (StaysOn.of_guarded hm)).mono Around.uncommitted

end StagedLoad

import StagedLoad.Database.Script
import StagedLoad.Proofs.Task

/-!
# Faults reach the caller

A refused call fails the operation that made it.  What still follows is clean-up: the cursor is
closed, the mode is restored, the connection is closed.  If a clean-up is refused as well, its fault
takes the place of the one before, and so the fault of an operation is the last one of its calls.

* `Session.Faithful` : how a session ends tells whether a call was refused, and which one last.
* `Session.Faithful.bind`, `Session.Faithful.ensuring` : this survives sequences and clean-ups.
* `Step.failure_is_last_fault` : it holds of every step, blocks inside of blocks included.
-/

namespace StagedLoad

variable {σ α β : Type}

/-- Whether the call ends or restores something. -/
def Call.isCleanUp : Call → Bool
  | .closeCursor => true
  | .setAutoCommit _ => true
  | .close => true
  | .ownerClose => true
  | _ => false

/-- The fault of the last call that was refused. -/
def lastFault? (es : List Event) : Option Fault := (es.filterMap Event.fault).getLast?

/-- There is no last fault exactly if nothing was refused. -/
theorem lastFault?_eq_none {es : List Event} :
    lastFault? es = none ↔ ∀ e ∈ es, e.fault = none := by
  rw [lastFault?, List.getLast?_eq_none_iff, List.filterMap_eq_nil_iff]

/-- The last fault is looked for in the second part first. -/
theorem lastFault?_append (es₁ es₂ : List Event) :
    lastFault? (es₁ ++ es₂) = (lastFault? es₂).or (lastFault? es₁) := by
  rw [lastFault?, List.filterMap_append, List.getLast?_append]
  rfl

/-- The last fault is that of a refused call behind which no call is refused. -/
theorem exists_of_lastFault? {es : List Event} {f : Fault} (h : lastFault? es = some f) :
    ∃ before refused after, es = before ++ refused :: after ∧ refused.fault = some f ∧
      ∀ x ∈ after, x.fault = none := by
  obtain ⟨faults, hfaults⟩ := List.getLast?_eq_some_iff.mp h
  obtain ⟨before, rest, rfl, _, hrest⟩ := List.filterMap_eq_append_iff.mp hfaults
  obtain ⟨quiet, refused, after, rfl, _, hrefused, hafter⟩ :=
    List.filterMap_eq_cons_iff.mp hrest
  refine ⟨before ++ quiet, refused, after, by rw [List.append_assoc], hrefused, ?_⟩
  exact List.filterMap_eq_nil_iff.mp hafter

/-- A refused call behind which nothing is refused has the last fault. -/
theorem lastFault?_of_split {before after : List Event} {refused : Event} {f : Fault}
    (hf : refused.fault = some f) (hafter : ∀ x ∈ after, x.fault = none) :
    lastFault? (before ++ refused :: after) = some f := by
  have hrefused : lastFault? [refused] = some f := by simp [lastFault?, hf]
  have hsplit : before ++ refused :: after = (before ++ [refused]) ++ after := by simp
  rw [hsplit, lastFault?_append, lastFault?_append, lastFault?_eq_none.mpr hafter, hrefused]
  rfl

/-- Behind a refused call there are only clean-ups. -/
def Halted (es : List Event) : Prop :=
  es.Pairwise fun x y => x.fault ≠ none → y.call.isCleanUp = true

/-- Before a call that is no clean-up nothing was refused. -/
theorem Halted.accepted_before {before after : List Event} {e : Event}
    (h : Halted (before ++ e :: after)) (hwork : e.call.isCleanUp = false) :
    ∀ x ∈ before, x.fault = none := by
  intro x hx
  cases hfault : x.fault with
  | none => rfl
  | some f =>
    have hrefused : x.fault ≠ none := by simp [hfault]
    have hclean := (List.pairwise_append.mp h).2.2 x hx e List.mem_cons_self hrefused
    cases hwork.symm.trans hclean

/-- **The way a session ends tells what was refused.**  It ends well if no call was refused, and
otherwise with the last fault; only clean-ups follow a refused call. -/
structure Reported (es : List Event) (r : Except Failure α) : Prop where
  ok : ∀ a, r = .ok a → lastFault? es = none
  error : ∀ e, r = .error e → ∃ f, lastFault? es = some f ∧ e = .fault f
  halted : Halted es

namespace Reported

theorem nil {a : α} : Reported [] (.ok a) where
  ok _ _ := rfl
  error _ h := by cases h
  halted := List.Pairwise.nil

/-- One call that was accepted. -/
theorem accepted {c : Call} {mode : Value} {a : α} : Reported [⟨c, mode, none⟩] (.ok a) where
  ok _ _ := rfl
  error _ h := by cases h
  halted := List.pairwise_singleton _ _

/-- One call that was refused. -/
theorem refused {c : Call} {mode : Value} {f : Fault} :
    Reported [⟨c, mode, some f⟩] (.error (.fault f) : Except Failure α) where
  ok _ h := by cases h
  error _ h := by
    cases h
    exact ⟨f, rfl, rfl⟩
  halted := List.pairwise_singleton _ _

/-- The calls of a session that ended well, and those of the one that followed. -/
theorem append {es₁ es₂ : List Event} {a : α} {r : Except Failure β}
    (h₁ : Reported es₁ (.ok a)) (h₂ : Reported es₂ r) : Reported (es₁ ++ es₂) r where
  ok b hb := by rw [lastFault?_append, h₂.ok b hb, h₁.ok a rfl, Option.or_none]
  error e he := by
    obtain ⟨f, hf, rfl⟩ := h₂.error e he
    exact ⟨f, by rw [lastFault?_append, hf, Option.some_or], rfl⟩
  halted := by
    refine List.pairwise_append.mpr ⟨h₁.halted, h₂.halted, ?_⟩
    intro x hx _ _ hfault
    exact absurd (lastFault?_eq_none.mp (h₁.ok a rfl) x hx) hfault

/-- Clean-ups may follow a refused call, so they keep calls halted. -/
theorem halted_append_cleanUp {es₁ es₂ : List Event} (h₁ : Halted es₁) (h₂ : Halted es₂)
    (hclean : ∀ e ∈ es₂, e.call.isCleanUp = true) : Halted (es₁ ++ es₂) :=
  List.pairwise_append.mpr ⟨h₁, h₂, fun _ _ y hy _ => hclean y hy⟩

/-- The calls of a body however that ended, and those of a clean-up that succeeded. -/
theorem append_cleanUp {es₁ es₂ : List Event} {r : Except Failure α} {u : β}
    (h₁ : Reported es₁ r) (h₂ : Reported es₂ (.ok u))
    (hclean : ∀ e ∈ es₂, e.call.isCleanUp = true) : Reported (es₁ ++ es₂) r where
  ok a ha := by rw [lastFault?_append, h₂.ok u rfl, h₁.ok a ha, Option.or_none]
  error e he := by
    obtain ⟨f, hf, rfl⟩ := h₁.error e he
    exact ⟨f, by rw [lastFault?_append, h₂.ok u rfl, hf, Option.none_or], rfl⟩
  halted := halted_append_cleanUp h₁.halted h₂.halted hclean

/-- The calls of a body however that ended, and those of a clean-up that failed. -/
theorem append_broken {es₁ es₂ : List Event} {r : Except Failure α} {e : Failure}
    (h₁ : Reported es₁ r) (h₂ : Reported es₂ (.error e : Except Failure β))
    (hclean : ∀ e ∈ es₂, e.call.isCleanUp = true) :
    Reported (es₁ ++ es₂) (.error e : Except Failure α) where
  ok _ ha := by cases ha
  error e' he' := by
    cases he'
    obtain ⟨f, hf, rfl⟩ := h₂.error e rfl
    exact ⟨f, by rw [lastFault?_append, hf, Option.some_or], rfl⟩
  halted := halted_append_cleanUp h₁.halted h₂.halted hclean

end Reported

/-- How the session ends tells what was refused. -/
def Session.Faithful (m : Session σ α) : Prop := m.Meets fun _ es r _ => Reported es r

/-- A faithful session that makes clean-up calls only. -/
structure Session.Tidy (m : Session σ α) : Prop where
  faithful : m.Faithful
  cleansUp : m.Calls fun e => e.call.isCleanUp = true

namespace Session.Faithful

/-- A silent session has nothing to report. -/
theorem of_silent {m : Session σ α} (hm : m.Silent) : m.Faithful :=
  Meets.of_silent hm fun _ _ => .nil

theorem pure (a : α) : (Pure.pure a : Session σ α).Faithful := of_silent (.pure a)

/-- **A sequence is faithful if its parts are**: behind a failure nothing follows. -/
theorem bind {m : Session σ α} {k : α → Session σ β} (hm : m.Faithful)
    (hk : ∀ a, (k a).Faithful) : (m >>= k).Faithful := by
  refine Meets.bind hm hk ?_ ?_
  · intro _ es e _ h
    refine ⟨?_, ?_, h.halted⟩
    · intro _ hb
      cases hb
    · intro e' he'
      cases he'
      exact h.error e rfl
  · intro _ _ _ _ _ _ _ h₁ h₂
    exact h₁.append h₂

/-- **A clean-up keeps a body faithful**: if it fails, it does so with the last fault. -/
theorem ensuring {m : Session σ α} {cleanup : Session σ Unit} (hm : m.Faithful)
    (hc : cleanup.Tidy) : (m.ensuring cleanup).Faithful := by
  refine Meets.ensuring hm (hc.faithful.and hc.cleansUp) ?_ ?_
  · intro _ _ _ _ _ _ h₁ h₂
    exact h₁.append_cleanUp h₂.1 h₂.2
  · intro _ _ _ _ _ _ _ h₁ h₂
    exact h₁.append_broken h₂.1 h₂.2

variable [Driver σ]

/-- One call fails with its own fault. -/
theorem perform (c : Call) : (perform c : Session σ Unit).Faithful := by
  refine (meets_perform c).mono ?_
  intro s es r s' hcall
  obtain ⟨fault, rfl, _, rfl⟩ := hcall
  cases fault with
  | none => exact .accepted
  | some f => exact .refused

end Session.Faithful

namespace Session.Tidy

variable [Driver σ]

/-- A clean-up of one call. -/
theorem perform {c : Call} (hc : c.isCleanUp = true) : (perform c : Session σ Unit).Tidy :=
  ⟨.perform c, .perform fun _ _ => hc⟩

/-- Restoring the mode is a clean-up. -/
theorem setAutoCommit (on : Bool) : (setAutoCommit on : Session σ Unit).Tidy := by
  refine ⟨(meets_setAutoCommit on).mono ?_, (meets_setAutoCommit on).mono ?_⟩
  · intro s es r s' hset
    rcases hset with ⟨_ | f, rfl, hr, _⟩
    · rw [hr]
      exact .accepted
    · rw [hr]
      exact .refused
  · intro s es r s' hset e he
    obtain ⟨fault, rfl, _⟩ := hset
    rw [List.mem_singleton.mp he]
    rfl

/-- The end of a connection is a clean-up, if it makes a call at all. -/
theorem closeSession (owned : Bool) : (closeSession owned : Session σ Unit).Tidy := by
  cases owned with
  | false => exact perform rfl
  | true => exact perform rfl

end Session.Tidy

namespace Session.Faithful

variable [Driver σ]

/-- What is done on an open cursor is faithful. -/
theorem of_onCursor {m : Session σ α} (hm : OnCursor m) : m.Faithful := by
  induction hm with
  | silent hm => exact of_silent hm
  | execute q => exact perform (.execute q)
  | fetchOne => exact perform .fetchOne
  | bind _ _ ihm ihk => exact ihm.bind ihk

/-- A commit is one call, or none with auto-commit on. -/
theorem commitIfNecessary : (commitIfNecessary : Session σ Unit).Faithful := by
  refine (of_silent .getAutoCommit).bind fun on => ?_
  cases on with
  | false => exact perform .commit
  | true => exact pure ()

/-- Working sessions are faithful: a cursor is closed by a clean-up. -/
theorem of_working {m : Session σ α} (hm : Working m) : m.Faithful := by
  induction hm with
  | silent hm => exact of_silent hm
  | withCursor hm => exact (perform .cursor).bind fun _ => (of_onCursor hm).ensuring (.perform rfl)
  | bind _ _ ihm ihk => exact ihm.bind ihk

/-- Plain sessions are faithful: they are cursors and commits in sequence. -/
theorem of_plain {m : Session σ α} (hm : Plain m) : m.Faithful := by
  induction hm with
  | working hm => exact of_working hm
  | commitIfNecessary => exact commitIfNecessary
  | bind _ _ ihm ihk => exact ihm.bind ihk
  | reporting severity message context _ ih => exact Meets.observing ih (fun _ _ => rfl) fun h => h

variable {w : Writer}

/-- A guard is faithful if its body is: the mode is restored by a clean-up. -/
theorem inAutoCommit {m : Session σ α} (hm : m.Faithful) : (w.inAutoCommit m).Faithful := by
  unfold Writer.inAutoCommit
  cases w.product with
  | sqlServer => exact hm
  | synapse =>
    refine (of_silent .getAutoCommit).bind fun before => ?_
    exact ((Tidy.setAutoCommit true).faithful.bind fun _ => hm).ensuring (.setAutoCommit before)

/-- Guarded sessions are faithful. -/
theorem of_guarded {m : Session σ α} (hm : Guarded w m) : m.Faithful := by
  induction hm with
  | plain hm => exact of_plain hm
  | bind _ _ ihm ihk => exact ihm.bind ihk
  | guard _ ih => exact ih.inAutoCommit

mutual

/-- **Steps are faithful**, by induction on the nesting of their blocks. -/
theorem step (w : Writer) : ∀ step : Step, (step.perform w : Session σ Answer).Faithful
  | .task t => of_guarded (t.perform_guarded w)
  | .setAutoCommit on => (Tidy.setAutoCommit on).faithful.bind fun _ => pure _
  | .close => (Tidy.closeSession w.owned).faithful.bind fun _ => pure _
  | .guard steps => ((block w steps).bind fun _ => pure _).inAutoCommit
  | .withSession steps => ((block w steps).bind fun _ => pure _).ensuring (.closeSession w.owned)

/-- The steps of a block are faithful, up to the first failure. -/
theorem block (w : Writer) :
    ∀ steps : List Step, (Step.performAll w steps : Session σ (List Answer)).Faithful
  | [] => pure _
  | s :: steps => (step w s).bind fun _ => (block w steps).bind fun _ => pure _

end

end Session.Faithful

/-- **Faults are neither swallowed nor rewritten.**  On every link and with every driver, a step
ends well exactly if no call of it was refused, and it fails with a failure exactly if this is the
fault of its last refused call.  Behind the first refusal there are only clean-ups, so the fault is
that of the refused statement unless a clean-up was refused as well. -/
theorem Step.failure_is_last_fault [Driver σ] (w : Writer) (step : Step) (s : Link σ) :
    (((step.perform w).outcome s).isOk = true ↔
      ∀ e ∈ (step.perform w).issued s, e.fault = none) ∧
    (∀ failure, (step.perform w).outcome s = .error failure ↔
      ∃ before refused after f, (step.perform w).issued s = before ++ refused :: after ∧
        refused.fault = some f ∧ (∀ x ∈ after, x.fault = none) ∧ failure = .fault f) ∧
    Halted ((step.perform w).issued s) := by
  have h := (Session.Faithful.step w step).issued s
  refine ⟨?_, ?_, h.halted⟩
  · rw [← lastFault?_eq_none]
    cases hr : (step.perform w).outcome s with
    | ok a => simp [Except.isOk, Except.toBool, h.ok a hr]
    | error e =>
      obtain ⟨f, hf, _⟩ := h.error e hr
      simp [Except.isOk, Except.toBool, hf]
  · intro failure
    constructor
    · intro hr
      obtain ⟨f, hf, hfailure⟩ := h.error failure hr
      obtain ⟨before, refused, after, hsplit, hrefused, hafter⟩ := exists_of_lastFault? hf
      exact ⟨before, refused, after, f, hsplit, hrefused, hafter, hfailure⟩
    · intro hfinal
      obtain ⟨before, refused, after, f, hsplit, hrefused, hafter, rfl⟩ := hfinal
      have hlast : lastFault? ((step.perform w).issued s) = some f := by
        rw [hsplit]
        exact lastFault?_of_split hrefused hafter
      cases hr : (step.perform w).outcome s with
      | ok a => cases (h.ok a hr).symm.trans hlast
      | error e =>
        obtain ⟨g, hg, rfl⟩ := h.error e hr
        cases hg.symm.trans hlast
        rfl

/-- The statement is refused, and then the closing of the cursor: the caller sees the latter. -/
example :
    let rules : List Rule := [{ on := "execute", fault := ⟨.database, "syntax"⟩ },
      { on := "close_cursor", fault := ⟨.other "InterfaceError", "gone"⟩ }]
    let s : Link Script := { driver := { rules } }
    ((Step.task (.execute { sql := "DROP" })).perform {}).outcome s =
      .error (.fault ⟨.other "InterfaceError", "gone"⟩) := rfl

end StagedLoad

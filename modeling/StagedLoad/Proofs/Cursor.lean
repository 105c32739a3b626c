import StagedLoad.Database.Script
import StagedLoad.Proofs.Task

/-!
# Cursors

A cursor is opened for one statement, and closed before anything else is asked of the connection.
This holds however the calls end: an opening that is refused leaves nothing to close, a statement or
a row that is refused still has its cursor closed, and a closing counts even if it is refused
itself.

* `Bracketed` : calls in which every cursor stands with what is done on it like a pair of brackets.
* `Bracketed.disciplined` : what this means for a call by its place among the others.
* `Session.Brackets.of_client` : whatever a client puts together, its calls are bracketed.
* `cursors_closed_in_runs` : operations leave no cursor open, one by one and as a run.
-/

namespace StagedLoad

variable {σ α β : Type}

/-! ## Calls in brackets -/

/-- What a call has to do with cursors. -/
inductive CursorRole where
  | opening
  /-- The call is made on an open cursor. -/
  | use
  | closing
  /-- The call has nothing to do with cursors. -/
  | aside
deriving DecidableEq

/-- What the call has to do with cursors. -/
def Call.role : Call → CursorRole
  | .cursor => .opening
  | .execute _ => .use
  | .fetchOne => .use
  | .closeCursor => .closing
  | _ => .aside

/-- Whether the call opened a cursor: an opening that was refused did not. -/
def Event.opened (e : Event) : Bool := e.call.role = .opening && e.fault.isNone

/-- All of the calls are made on an open cursor. -/
def AllOnCursor (es : List Event) : Prop := ∀ e ∈ es, e.call.role = .use

/-- Only an opening opens a cursor. -/
theorem Event.role_of_opened {e : Event} (h : e.opened = true) : e.call.role = .opening := by
  simp only [opened, Bool.and_eq_true, decide_eq_true_eq] at h
  exact h.1

theorem Event.not_opened_of_role {e : Event} {r : CursorRole} (h : e.call.role = r)
    (hr : r ≠ .opening) : e.opened = false := by
  simp [opened, h, hr]

/-- A call that does not come first comes later. -/
theorem cons_split {x e : Event} {before rest after : List Event} (hne : x ≠ e)
    (h : x :: rest = before ++ e :: after) :
    ∃ front, before = x :: front ∧ rest = front ++ e :: after := by
  cases before with
  | nil => exact absurd (List.cons.inj h).1 hne
  | cons y front =>
    obtain ⟨rfl, hrest⟩ := List.cons.inj h
    exact ⟨front, rfl, hrest⟩

/-- **Calls in brackets.**  A cursor that was opened is followed by calls on it and by one closing.
Outside of such brackets there are openings that were refused, and calls that have nothing to do
with cursors. -/
inductive Bracketed : List Event → Prop where
  | nil : Bracketed []
  | cursor {opening closing : Event} {work rest : List Event} (hopened : opening.opened = true)
      (hwork : AllOnCursor work) (hclosing : closing.call.role = .closing)
      (hrest : Bracketed rest) : Bracketed (opening :: (work ++ closing :: rest))
  | refused {e : Event} {rest : List Event} (hrole : e.call.role = .opening)
      (hopened : e.opened = false) (hrest : Bracketed rest) : Bracketed (e :: rest)
  | aside {e : Event} {rest : List Event} (hrole : e.call.role = .aside)
      (hrest : Bracketed rest) : Bracketed (e :: rest)

/-- **Discipline.**  A cursor that was opened is closed before any call that is not made on it.
What is done on a cursor, and every closing, comes behind an opening with nothing but calls on the
cursor between.  So each closing has an opening of its own, and in the end no cursor is open. -/
structure Disciplined (es : List Event) : Prop where
  closed : ∀ before e after, es = before ++ e :: after → e.opened = true →
    ∃ work closing rest, after = work ++ closing :: rest ∧ AllOnCursor work ∧
      closing.call.role = .closing
  opened : ∀ before e after, es = before ++ e :: after →
    e.call.role = .use ∨ e.call.role = .closing →
    ∃ front opening work, before = front ++ opening :: work ∧ opening.opened = true ∧
      AllOnCursor work
  balanced : es.countP Event.opened = es.countP fun e => e.call.role = .closing

namespace Bracketed

/-- Two parts in brackets are so together. -/
theorem append {es₁ es₂ : List Event} (h₁ : Bracketed es₁) (h₂ : Bracketed es₂) :
    Bracketed (es₁ ++ es₂) := by
  induction h₁ with
  | nil => exact h₂
  | cursor hopened hwork hclosing _ ih =>
    simp only [List.cons_append, List.append_assoc]
    exact cursor hopened hwork hclosing ih
  | refused hrole hopened _ ih => exact refused hrole hopened ih
  | aside hrole _ ih => exact aside hrole ih

/-- Any number of parts in brackets are so together. -/
theorem flatten {parts : List (List Event)} (h : ∀ es ∈ parts, Bracketed es) :
    Bracketed parts.flatten := by
  induction parts with
  | nil => exact nil
  | cons es parts ih =>
    obtain ⟨hes, hparts⟩ := List.forall_mem_cons.mp h
    exact hes.append (ih hparts)

variable {es before after : List Event} {e : Event}

/-- Behind an opening there are calls on the cursor up to a closing. -/
theorem closed (h : Bracketed es) (hes : es = before ++ e :: after) (he : e.opened = true) :
    ∃ work closing rest, after = work ++ closing :: rest ∧ AllOnCursor work ∧
      closing.call.role = .closing := by
  have hne : ∀ {x : Event}, x.opened = false → x ≠ e := by
    rintro _ hx rfl
    cases hx.symm.trans he
  induction h generalizing before with
  | nil => simp at hes
  | @cursor opening closing work rest _ hwork hclosing _ ih =>
    cases before with
    | nil =>
      obtain ⟨_, rfl⟩ := List.cons.inj hes
      exact ⟨work, closing, rest, rfl, hwork, hclosing⟩
    | cons x front =>
      rcases append_split (List.cons.inj hes).2 with ⟨_, hinside⟩ | ⟨front, rfl, hbehind⟩
      · have huse := hwork e (mem_of_split hinside)
        cases huse.symm.trans (Event.role_of_opened he)
      · have hother := Event.not_opened_of_role hclosing nofun
        obtain ⟨front, _, hrest⟩ := cons_split (hne hother) hbehind
        exact ih hrest
  | refused _ hopened _ ih =>
    obtain ⟨front, _, hrest⟩ := cons_split (hne hopened) hes
    exact ih hrest
  | aside hrole _ ih =>
    have hother := Event.not_opened_of_role hrole nofun
    obtain ⟨front, _, hrest⟩ := cons_split (hne hother) hes
    exact ih hrest

/-- Before a call on a cursor, and before a closing, there are calls on the cursor back to its
opening. -/
theorem opened (h : Bracketed es) (hes : es = before ++ e :: after)
    (he : e.call.role = .use ∨ e.call.role = .closing) :
    ∃ front opening work, before = front ++ opening :: work ∧ opening.opened = true ∧
      AllOnCursor work := by
  have hne : ∀ {x : Event}, x.call.role = .opening ∨ x.call.role = .aside → x ≠ e := by
    rintro _ hx rfl
    rcases hx with hx | hx <;> simp [hx] at he
  induction h generalizing before with
  | nil => simp at hes
  | @cursor opening closing work rest hopened hwork _ _ ih =>
    have hrole := Event.role_of_opened hopened
    obtain ⟨front, rfl, htail⟩ := cons_split (hne (.inl hrole)) hes
    rcases append_split htail with ⟨inside, rfl⟩ | ⟨behind, rfl, hbehind⟩
    · exact ⟨[], opening, front, rfl, hopened, fun x hx => hwork x (List.mem_append_left _ hx)⟩
    · cases behind with
      | nil => exact ⟨[], opening, work, by rw [List.append_nil]; rfl, hopened, hwork⟩
      | cons x behind =>
        obtain ⟨front, opening', work', rfl, hopened', hwork'⟩ := ih (List.cons.inj hbehind).2
        refine ⟨opening :: (work ++ x :: front), opening', work', ?_, hopened', hwork'⟩
        simp only [List.append_assoc, List.cons_append]
  | refused hrole _ _ ih =>
    obtain ⟨_, rfl, hrest⟩ := cons_split (hne (.inl hrole)) hes
    obtain ⟨front, opening, work, rfl, hopened, hwork⟩ := ih hrest
    exact ⟨_ :: front, opening, work, rfl, hopened, hwork⟩
  | aside hrole _ ih =>
    obtain ⟨_, rfl, hrest⟩ := cons_split (hne (.inr hrole)) hes
    obtain ⟨front, opening, work, rfl, hopened, hwork⟩ := ih hrest
    exact ⟨_ :: front, opening, work, rfl, hopened, hwork⟩

/-- As many cursors are closed as were opened. -/
theorem balanced (h : Bracketed es) :
    es.countP Event.opened = es.countP fun e => e.call.role = .closing := by
  induction h with
  | nil => rfl
  | @cursor opening closing work rest hopened hwork hclosing _ ih =>
    have hother := Event.not_opened_of_role hclosing nofun
    have hrole := Event.role_of_opened hopened
    have hnone : work.countP Event.opened = 0 := by
      rw [List.countP_eq_zero]
      intro x hx
      simp [Event.not_opened_of_role (hwork x hx) nofun]
    have hnone' : (work.countP fun e => e.call.role = .closing) = 0 := by
      rw [List.countP_eq_zero]
      intro x hx
      simp [hwork x hx]
    simp only [List.countP_cons, List.countP_append, hopened, hother, hclosing, hrole, hnone,
      hnone', ih]
    simp
  | refused hrole hopened _ ih => simp [hopened, hrole, ih]
  | aside hrole _ ih => simp [Event.not_opened_of_role hrole nofun, hrole, ih]

/-- **Calls in brackets are disciplined.** -/
theorem disciplined (h : Bracketed es) : Disciplined es where
  closed _ _ _ hes he := h.closed hes he
  opened _ _ _ hes he := h.opened hes he
  balanced := h.balanced

end Bracketed

/-! ## Sessions -/

/-- A session that succeeds needs no treatment. -/
theorem Session.tryCatch_of_ok {m : Session σ α} {k : Failure → Session σ α} {s : Link σ} {a : α}
    (h : m.outcome s = .ok a) : tryCatch m k s = (.ok a, m.after s) := by
  have hm : m s = (.ok a, m.after s) := Prod.ext h rfl
  show (ExceptT.tryCatch m k : ExceptT _ _ _) s = _
  simp only [ExceptT.tryCatch, ExceptT.mk, Bind.bind, StateT.bind]
  rw [hm]
  rfl

/-- A failure is treated on the link that the session left. -/
theorem Session.tryCatch_of_error {m : Session σ α} {k : Failure → Session σ α} {s : Link σ}
    {e : Failure} (h : m.outcome s = .error e) : tryCatch m k s = k e (m.after s) := by
  have hm : m s = (.error e, m.after s) := Prod.ext h rfl
  show (ExceptT.tryCatch m k : ExceptT _ _ _) s = _
  simp only [ExceptT.tryCatch, ExceptT.mk, Bind.bind, StateT.bind]
  rw [hm]

/-- The calls of the session are in brackets. -/
def Session.Brackets (m : Session σ α) : Prop := m.Meets fun _ es _ _ => Bracketed es

namespace Session.Brackets

theorem of_silent {m : Session σ α} (hm : m.Silent) : m.Brackets :=
  Meets.of_silent hm fun _ _ => .nil

/-- The brackets of a sequence are those of its parts, side by side. -/
theorem bind {m : Session σ α} {k : α → Session σ β} (hm : m.Brackets)
    (hk : ∀ a, (k a).Brackets) : (m >>= k).Brackets :=
  Meets.bind hm hk (fun h => h) fun h₁ h₂ => h₁.append h₂

theorem ensuring {m : Session σ α} {cleanup : Session σ Unit} (hm : m.Brackets)
    (hc : cleanup.Brackets) : (m.ensuring cleanup).Brackets :=
  Meets.ensuring hm hc (fun h₁ h₂ => h₁.append h₂) fun h₁ h₂ => h₁.append h₂

theorem tryCatch {m : Session σ α} {k : Failure → Session σ α} (hm : m.Brackets)
    (hk : ∀ e, (k e).Brackets) : (tryCatch m k).Brackets := by
  intro s
  obtain ⟨es₁, htrace₁, h₁⟩ := hm s
  cases hr : m.outcome s with
  | ok a =>
    rw [outcome, after, tryCatch_of_ok hr]
    exact ⟨es₁, htrace₁, h₁⟩
  | error e =>
    obtain ⟨es₂, htrace₂, h₂⟩ := hk e (m.after s)
    rw [outcome, after, tryCatch_of_error hr]
    refine ⟨es₁ ++ es₂, ?_, h₁.append h₂⟩
    rw [← List.append_assoc, ← htrace₁]
    exact htrace₂

variable [Driver σ]

/-- A call that has nothing to do with cursors. -/
theorem perform {c : Call} (hc : c.role = .aside) : (perform c : Session σ Unit).Brackets := by
  refine (meets_perform c).mono ?_
  intro s es r s' hcall
  obtain ⟨fault, rfl, _, _⟩ := hcall
  exact .aside hc .nil

theorem setAutoCommit (on : Bool) : (setAutoCommit on : Session σ Unit).Brackets := by
  refine (meets_setAutoCommit on).mono ?_
  intro s es r s' hset
  obtain ⟨fault, rfl, _⟩ := hset
  exact .aside rfl .nil

/-- On an open cursor there are only calls on it. -/
theorem calls_onCursor {m : Session σ α} (hm : OnCursor m) :
    m.Calls fun e => e.call.role = .use := by
  induction hm with
  | silent hm => exact .of_silent hm
  | execute q => exact .perform fun _ _ => rfl
  | fetchOne => exact .perform fun _ _ => rfl
  | bind _ _ ihm ihk => exact ihm.bind ihk

/-- **A cursor and what is done on it**: one pair of brackets, or an opening that was refused. -/
theorem withCursor {m : Session σ α} (hm : OnCursor m) : (withCursor m).Brackets := by
  have hbody : (m.ensuring (StagedLoad.perform .closeCursor)).Meets fun _ es _ _ =>
      ∃ work closing, es = work ++ [closing] ∧ AllOnCursor work ∧
        closing.call.role = .closing := by
    refine Meets.ensuring (calls_onCursor hm) (meets_perform .closeCursor) ?_ ?_
    · rintro _ work _ _ _ _ hwork ⟨fault, rfl, _, _⟩
      exact ⟨work, _, rfl, hwork, rfl⟩
    · rintro _ work _ _ _ _ _ hwork ⟨fault, rfl, _, _⟩
      exact ⟨work, _, rfl, hwork, rfl⟩
  refine Meets.bind (meets_perform .cursor) (fun _ => hbody) ?_ ?_
  · rintro s _ e _ ⟨fault, rfl, _, hr⟩
    cases fault with
    | none => cases hr
    | some f => exact .refused rfl rfl .nil
  · rintro s _ _ mid _ r s' ⟨fault, rfl, _, hr⟩ ⟨work, closing, rfl, hwork, hclosing⟩
    cases fault with
    | none => exact .cursor rfl hwork hclosing .nil
    | some f => cases hr

/-- Working sessions are cursors in sequence. -/
theorem of_working {m : Session σ α} (hm : Working m) : m.Brackets := by
  induction hm with
  | silent hm => exact of_silent hm
  | withCursor hm => exact withCursor hm
  | bind _ _ ihm ihk => exact ihm.bind ihk

/-- Commits stand between the brackets. -/
theorem of_plain {m : Session σ α} (hm : Plain m) : m.Brackets := by
  induction hm with
  | working hm => exact of_working hm
  | commitIfNecessary =>
    refine (of_silent .getAutoCommit).bind fun on => ?_
    cases on with
    | false => exact perform rfl
    | true => exact of_silent (.pure ())
  | bind _ _ ihm ihk => exact ihm.bind ihk
  | reporting severity message context _ ih => exact Meets.observing ih (fun _ _ => rfl) fun h => h

variable {w : Writer}

/-- A guard has its mode changes before and behind its body, and none of them on a cursor. -/
theorem inAutoCommit {m : Session σ α} (hm : m.Brackets) : (w.inAutoCommit m).Brackets := by
  unfold Writer.inAutoCommit
  cases w.product with
  | sqlServer => exact hm
  | synapse =>
    refine (of_silent .getAutoCommit).bind fun before => ?_
    exact ((setAutoCommit true).bind fun _ => hm).ensuring (setAutoCommit before)

/-- Mode changes stand between the brackets as well. -/
theorem of_guarded {m : Session σ α} (hm : Guarded w m) : m.Brackets := by
  induction hm with
  | plain hm => exact of_plain hm
  | bind _ _ ihm ihk => exact ihm.bind ihk
  | guard _ ih => exact ih.inAutoCommit

theorem closeSession (owned : Bool) : (closeSession owned : Session σ Unit).Brackets := by
  cases owned with
  | false => exact perform rfl
  | true => exact perform rfl

end Session.Brackets

/-! ## Clients -/

section

variable [Driver σ] (w : Writer)

/-- What a client can put together on a session: operations of the writer, mode changes, commits and
the end of the connection, failures of its own and their treatment, guards around all this, and
blocks at whose end the connection is closed. -/
inductive Client : {α : Type} → Session σ α → Prop where
  | task (t : Task) : Client (t.perform w)
  | silent {α : Type} {m : Session σ α} (hm : m.Silent) : Client m
  | setAutoCommit (on : Bool) : Client (setAutoCommit on)
  | commit : Client commit
  | close : Client (closeSession w.owned)
  | fail {α : Type} (e : Failure) : Client (Session.fail e : Session σ α)
  | bind {α β : Type} {m : Session σ α} {k : α → Session σ β} (hm : Client m)
      (hk : ∀ a, Client (k a)) : Client (m >>= k)
  | recovering {α : Type} {m : Session σ α} {k : Failure → Session σ α} (hm : Client m)
      (hk : ∀ e, Client (k e)) : Client (tryCatch m k)
  | guard {α : Type} {m : Session σ α} (hm : Client m) : Client (w.inAutoCommit m)
  | withSession {α : Type} {m : Session σ α} (hm : Client m) : Client (withSession w.owned m)

variable {w}

mutual

/-- A step of a block is what a client can put together, by induction on the nesting of blocks. -/
theorem Client.of_step : ∀ step : Step, Client w (step.perform w : Session σ Answer)
  | .task t => task t
  | .setAutoCommit on => (setAutoCommit on).bind fun _ => silent (.pure _)
  | .close => close.bind fun _ => silent (.pure _)
  | .guard steps => guard ((of_steps steps).bind fun _ => silent (.pure _))
  | .withSession steps => withSession ((of_steps steps).bind fun _ => silent (.pure _))

/-- The steps of a block are what a client can put together. -/
theorem Client.of_steps :
    ∀ steps : List Step, Client w (Step.performAll w steps : Session σ (List Answer))
  | [] => silent (.pure _)
  | step :: steps => (of_step step).bind fun _ => (of_steps steps).bind fun _ => silent (.pure _)

end

/-- **Whatever a client puts together, its calls are in brackets**, by induction on how it is put
together. -/
theorem Session.Brackets.of_client {m : Session σ α} (hm : Client w m) : m.Brackets := by
  induction hm with
  | task t => exact of_guarded (t.perform_guarded w)
  | silent hm => exact of_silent hm
  | setAutoCommit on => exact setAutoCommit on
  | commit => exact perform rfl
  | close => exact closeSession w.owned
  | fail e => exact fun s => ⟨[], by rw [List.append_nil]; rfl, .nil⟩
  | bind _ _ ihm ihk => exact ihm.bind ihk
  | recovering _ _ ihm ihk => exact ihm.tryCatch ihk
  | guard _ ih => exact ih.inAutoCommit
  | withSession _ ih => exact ih.ensuring (closeSession w.owned)

/-- An operation of a client. -/
structure Operation (σ : Type) [Driver σ] (w : Writer) where
  run : Session σ Answer
  client : Client w run

/-- A step as an operation. -/
def Operation.ofStep (step : Step) : Operation σ w := ⟨step.perform w, .of_step step⟩

/-- **No cursor is left open.**  On every link and with every driver, in every run of operations the
calls of each operation are disciplined, and so are those of the whole run: every cursor that was
opened is closed by one call before anything but its own calls is made, nothing else is closed, and
nothing is carried out or fetched without a cursor. -/
theorem cursors_closed_in_runs (ops : List (Operation σ w)) (s : Link σ) :
    (∀ st ∈ stages Operation.run ops s, Disciplined st.events) ∧
    (finish Operation.run ops s).trace =
      s.trace ++ ((stages Operation.run ops s).map Stage.events).flatten ∧
    Disciplined ((stages Operation.run ops s).map Stage.events).flatten := by
  have hstages : ∀ st ∈ stages Operation.run ops s, Bracketed st.events :=
    forall_stages (fun op s => (Session.Brackets.of_client op.client).issued s) ops s
  refine ⟨fun st hst => (hstages st hst).disciplined, ?_, ?_⟩
  · exact trace_finish (fun op s => (Session.Brackets.of_client op.client).trace s) ops s
  · exact (Bracketed.flatten (List.forall_mem_map.mpr hstages)).disciplined

end

/-- The statement of a guard is refused, and so are the closing of its cursor and the restoring of
the mode. -/
example :
    let refusal (on : Text) : Rule := { on, fault := ⟨.database, "gone"⟩, times := some 1 }
    let w : Writer := { product := .synapse }
    let ops : List (Operation Script w) := [
      .ofStep (.guard [.task (.execute { sql := "DROP" })]),
      .ofStep (.task (.fetchOne { sql := "SELECT" }))]
    let s : Link Script := { driver := { rules := [refusal "execute", refusal "close_cursor",
      { refusal "set_autocommit" with value := some (.bool false) }] } }
    (finish Operation.run ops s).trace.map (fun e => (e.call.name, e.fault.isNone)) = [
      ("set_autocommit", true), ("cursor", true), ("execute", false), ("close_cursor", false),
      ("set_autocommit", false), ("cursor", true), ("execute", true), ("fetchone", true),
      ("close_cursor", true)] := rfl

end StagedLoad

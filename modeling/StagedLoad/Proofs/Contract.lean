import StagedLoad.Database.Session

/-!
# Contracts of sessions

A session ends in one way or the other, leaves a link behind, and has put the calls that it made on
the trace.  A contract says something about all of these at once.  A session is put together from
smaller ones, and so is the proof that it meets a contract.

* `Session.Meets.issued` : a contract speaks about the calls that the session issued.
* `Session.Meets.bind` : a session and what follows it; after a failure nothing follows.
* `Session.Meets.ensuring` : a body and its clean-up, whose own failure replaces the one before.
-/

namespace StagedLoad

variable {σ α β : Type}

/-- What is said of a session: the link that it starts on, the calls that it makes, how it ends, and
the link that it leaves. -/
abbrev Contract (σ α : Type) := Link σ → List Event → Except Failure α → Link σ → Prop

theorem mem_of_split {before after es : List Event} {e : Event} (h : es = before ++ e :: after) :
    e ∈ es := by
  rw [h]
  exact List.mem_append_right _ List.mem_cons_self

/-- A call of two sessions is a call of the first one or of the second. -/
theorem append_split {before after es₁ es₂ : List Event} {e : Event}
    (h : es₁ ++ es₂ = before ++ e :: after) :
    (∃ rest, es₁ = before ++ e :: rest) ∨
      ∃ front, before = es₁ ++ front ∧ es₂ = front ++ e :: after := by
  rcases List.append_eq_append_iff.mp h with ⟨front, rfl, hes₂⟩ | ⟨rest, rfl, hrest⟩
  · exact .inr ⟨front, rfl, hes₂⟩
  · cases rest with
    | nil => exact .inr ⟨[], by simp, hrest.symm⟩
    | cons x rest =>
      obtain ⟨rfl, _⟩ := List.cons.inj hrest
      exact .inl ⟨rest, rfl⟩

namespace Session

/-- How the session ends. -/
def outcome (m : Session σ α) (s : Link σ) : Except Failure α := (m s).1

/-- The link that the session leaves. -/
def after (m : Session σ α) (s : Link σ) : Link σ := (m s).2

/-- The calls that the session makes, in order. -/
def issued (m : Session σ α) (s : Link σ) : List Event := (m.after s).trace.drop s.trace.length

/-- A sequence goes on after a success only. -/
theorem bind_apply (m : Session σ α) (k : α → Session σ β) (s : Link σ) :
    (m >>= k) s = match m s with
      | (.ok a, s) => k a s
      | (.error e, s) => (.error e, s) := by
  show (ExceptT.bind m k : ExceptT _ _ _) s = _
  simp only [ExceptT.bind, ExceptT.mk, bind, StateT.bind, ExceptT.bindCont]
  rcases m s with ⟨_ | _, _⟩ <;> rfl

/-- **Sequencing, after a success.**  What follows runs on the link that the first session left. -/
theorem bind_of_ok {m : Session σ α} {k : α → Session σ β} {s : Link σ} {a : α}
    (h : m.outcome s = .ok a) : (m >>= k) s = k a (m.after s) := by
  have hm : m s = (.ok a, m.after s) := Prod.ext h rfl
  rw [bind_apply, hm]

/-- **Sequencing, after a failure.**  Nothing follows. -/
theorem bind_of_error {m : Session σ α} {k : α → Session σ β} {s : Link σ} {e : Failure}
    (h : m.outcome s = .error e) : (m >>= k) s = (.error e, m.after s) := by
  have hm : m s = (.error e, m.after s) := Prod.ext h rfl
  rw [bind_apply, hm]

/-- A session whose answer is not asked for. -/
theorem discard_eq_bind (m : Session σ α) : discard m = m >>= fun _ => pure () := by
  funext s
  rw [bind_apply]
  show (ExceptT.map _ m : ExceptT _ _ _) s = _
  simp only [ExceptT.map, ExceptT.mk, bind, StateT.bind]
  rcases m s with ⟨_ | _, _⟩ <;> rfl

/-- **Clean-up, when it succeeds.**  The body decides how the whole ends. -/
theorem ensuring_of_ok {body : Session σ α} {cleanup : Session σ Unit} {s : Link σ}
    (h : cleanup.outcome (body.after s) = .ok ()) :
    body.ensuring cleanup s = (body.outcome s, cleanup.after (body.after s)) := by
  have hb : body s = (body.outcome s, body.after s) := rfl
  have hc : cleanup (body.after s) = (.ok (), cleanup.after (body.after s)) := Prod.ext h rfl
  rw [ensuring, hb]
  simp only [hc]

/-- **Clean-up, when it fails.**  Its failure is the failure of the whole. -/
theorem ensuring_of_error {body : Session σ α} {cleanup : Session σ Unit} {s : Link σ} {e : Failure}
    (h : cleanup.outcome (body.after s) = .error e) :
    body.ensuring cleanup s = (.error e, cleanup.after (body.after s)) := by
  have hb : body s = (body.outcome s, body.after s) := rfl
  have hc : cleanup (body.after s) = (.error e, cleanup.after (body.after s)) := Prod.ext h rfl
  rw [ensuring, hb]
  simp only [hc]

/-- The clean-up starts where the body stopped, however that ended. -/
theorem after_ensuring (body : Session σ α) (cleanup : Session σ Unit) (s : Link σ) :
    (body.ensuring cleanup).after s = cleanup.after (body.after s) := by
  cases hr : cleanup.outcome (body.after s) with
  | ok u => rw [after, ensuring_of_ok hr]
  | error e => rw [after, ensuring_of_error hr]

/-- A session that makes no call, leaves the auto-commit value alone and does not fail. -/
structure Silent (m : Session σ α) : Prop where
  trace : ∀ s, (m.after s).trace = s.trace
  autoCommit : ∀ s, (m.after s).autoCommit = s.autoCommit
  ok : ∀ s, ∃ a, m.outcome s = .ok a

namespace Silent

theorem pure (a : α) : (Pure.pure a : Session σ α).Silent :=
  ⟨fun _ => rfl, fun _ => rfl, fun _ => ⟨a, rfl⟩⟩

theorem say (severity : Severity) (message : Text) (context : Context) :
    (say severity message context : Session σ Unit).Silent :=
  ⟨fun _ => rfl, fun _ => rfl, fun _ => ⟨(), rfl⟩⟩

/-- Silent sessions in sequence are silent. -/
theorem bind {m : Session σ α} {k : α → Session σ β} (hm : m.Silent) (hk : ∀ a, (k a).Silent) :
    (m >>= k).Silent := by
  have hrun : ∀ s, ∃ a, (m >>= k) s = k a (m.after s) := by
    intro s
    obtain ⟨a, ha⟩ := hm.ok s
    exact ⟨a, bind_of_ok ha⟩
  refine ⟨?_, ?_, ?_⟩
  · intro s
    obtain ⟨a, ha⟩ := hrun s
    rw [after, ha]
    exact ((hk a).trace _).trans (hm.trace s)
  · intro s
    obtain ⟨a, ha⟩ := hrun s
    rw [after, ha]
    exact ((hk a).autoCommit _).trans (hm.autoCommit s)
  · intro s
    obtain ⟨a, ha⟩ := hrun s
    rw [outcome, ha]
    exact (hk a).ok _

theorem getAutoCommit : (getAutoCommit : Session σ Bool).Silent :=
  ⟨fun _ => rfl, fun _ => rfl, fun _ => ⟨_, rfl⟩⟩

theorem takeRowCount [Driver σ] (sql : Text) : (takeRowCount sql : Session σ Int).Silent :=
  ⟨fun _ => rfl, fun _ => rfl, fun _ => ⟨_, rfl⟩⟩

theorem takeRow [Driver σ] : (takeRow : Session σ (Option (List Value))).Silent :=
  ⟨fun _ => rfl, fun _ => rfl, fun _ => ⟨_, rfl⟩⟩

end Silent

/-- The session only adds calls to the trace, and the contract holds of them on every link. -/
def Meets (m : Session σ α) (C : Contract σ α) : Prop :=
  ∀ s, ∃ es, (m.after s).trace = s.trace ++ es ∧ C s es (m.outcome s) (m.after s)

namespace Meets

variable {C P : Contract σ α} {R : Contract σ β} {m : Session σ α}

/-- The calls that a contract speaks about are the issued ones. -/
theorem issued (hm : m.Meets C) (s : Link σ) :
    C s (m.issued s) (m.outcome s) (m.after s) := by
  obtain ⟨es, htrace, hC⟩ := hm s
  have hes : m.issued s = es := by
    rw [Session.issued, htrace, List.drop_left]
  rwa [hes]

/-- The link keeps what was on its trace. -/
theorem trace (hm : m.Meets C) (s : Link σ) : (m.after s).trace = s.trace ++ m.issued s := by
  obtain ⟨es, htrace, _⟩ := hm s
  rw [Session.issued, htrace, List.drop_left]

/-- A contract may be replaced by a weaker one. -/
theorem mono (hm : m.Meets P) (h : ∀ {s es r s'}, P s es r s' → C s es r s') : m.Meets C := by
  intro s
  obtain ⟨es, htrace, hP⟩ := hm s
  exact ⟨es, htrace, h hP⟩

/-- A contract may also name the end and the link that are reached. -/
theorem exactly (hm : m.Meets C) :
    m.Meets fun s es r s' => C s es r s' ∧ r = m.outcome s ∧ s' = m.after s := by
  intro s
  obtain ⟨es, htrace, hC⟩ := hm s
  exact ⟨es, htrace, hC, rfl, rfl⟩

/-- Two contracts hold side by side. -/
theorem and (hP : m.Meets P) (hC : m.Meets C) :
    m.Meets fun s es r s' => P s es r s' ∧ C s es r s' := by
  intro s
  obtain ⟨es, htrace, h⟩ := hP s
  obtain ⟨es', htrace', h'⟩ := hC s
  have hes : es' = es := List.append_cancel_left (htrace'.symm.trans htrace)
  exact ⟨es, htrace, h, hes ▸ h'⟩

/-- A silent session meets what holds without a call. -/
theorem of_silent (hm : m.Silent)
    (h : ∀ {s a s'}, m.outcome s = .ok a → s'.autoCommit = s.autoCommit → C s [] (.ok a) s') :
    m.Meets C := by
  intro s
  obtain ⟨a, ha⟩ := hm.ok s
  refine ⟨[], by rw [hm.trace, List.append_nil], ?_⟩
  rw [ha]
  exact h ha (hm.autoCommit s)

/-- **One session after the other.** -/
theorem bind {k : α → Session σ β} {Q : α → Contract σ β} (hm : m.Meets P)
    (hk : ∀ a, (k a).Meets (Q a))
    (stopped : ∀ {s es e s'}, P s es (.error e) s' → R s es (.error e) s')
    (continued : ∀ {s es₁ a mid es₂ r s'}, P s es₁ (.ok a) mid → Q a mid es₂ r s' →
      R s (es₁ ++ es₂) r s') : (m >>= k).Meets R := by
  intro s
  obtain ⟨es₁, htrace, hP⟩ := hm s
  cases hr : m.outcome s with
  | error e =>
    have heq := bind_of_error (k := k) hr
    rw [hr] at hP
    refine ⟨es₁, ?_, ?_⟩
    · rw [after, heq]
      exact htrace
    · rw [outcome, after, heq]
      exact stopped hP
  | ok a =>
    have heq := bind_of_ok (k := k) hr
    obtain ⟨es₂, htrace₂, hQ⟩ := hk a (m.after s)
    rw [hr] at hP
    refine ⟨es₁ ++ es₂, ?_, ?_⟩
    · rw [after, heq, ← List.append_assoc, ← htrace]
      exact htrace₂
    · rw [outcome, after, heq]
      exact continued hP hQ

/-- **A body with its clean-up.** -/
theorem ensuring {cleanup : Session σ Unit} {Q : Contract σ Unit} (hm : m.Meets P)
    (hc : cleanup.Meets Q)
    (calm : ∀ {s es₁ r mid es₂ s'}, P s es₁ r mid → Q mid es₂ (.ok ()) s' →
      C s (es₁ ++ es₂) r s')
    (broken : ∀ {s es₁ r mid es₂ e s'}, P s es₁ r mid → Q mid es₂ (.error e) s' →
      C s (es₁ ++ es₂) (.error e) s') : (m.ensuring cleanup).Meets C := by
  intro s
  obtain ⟨es₁, htrace, hP⟩ := hm s
  obtain ⟨es₂, htrace₂, hQ⟩ := hc (m.after s)
  have happ : (cleanup.after (m.after s)).trace = s.trace ++ (es₁ ++ es₂) := by
    rw [htrace₂, htrace, List.append_assoc]
  cases hr : cleanup.outcome (m.after s) with
  | ok u =>
    have heq := ensuring_of_ok hr
    rw [hr] at hQ
    refine ⟨es₁ ++ es₂, ?_, ?_⟩
    · rw [after, heq]
      exact happ
    · rw [outcome, after, heq]
      exact calm hP hQ
  | error e =>
    have heq := ensuring_of_error hr
    rw [hr] at hQ
    refine ⟨es₁ ++ es₂, ?_, ?_⟩
    · rw [after, heq]
      exact happ
    · rw [outcome, after, heq]
      exact broken hP hQ

/-- A body whose faults are looked at: how it ends is not changed. -/
theorem observing {react : Fault → Link σ → Link σ} (hm : m.Meets C)
    (htrace : ∀ f s, (react f s).trace = s.trace)
    (h : ∀ {s es f s'}, C s es (.error (.fault f)) s' → C s es (.error (.fault f)) (react f s')) :
    (m.observing react).Meets C := by
  intro s
  obtain ⟨es, ht, hC⟩ := hm s
  simp only [outcome, after] at ht hC
  simp only [outcome, after, Session.observing]
  rcases hr : m s with ⟨r, s'⟩
  rw [hr] at ht hC
  rcases r with (_ | _ | _ | _ | _ | _) | a
  case error.fault f => exact ⟨es, (htrace f s').trans ht, h hC⟩
  all_goals exact ⟨es, ht, hC⟩

end Meets

/-- Every call of the session has the property. -/
def Calls (m : Session σ α) (p : Event → Prop) : Prop := m.Meets fun _ es _ _ => ∀ e ∈ es, p e

namespace Calls

variable {p : Event → Prop} {m : Session σ α}

/-- A silent session has nothing that could lack the property. -/
theorem of_silent (hm : m.Silent) : m.Calls p :=
  Meets.of_silent hm fun _ _ _ he => nomatch he

/-- The calls of a sequence are those of its parts. -/
theorem bind {k : α → Session σ β} (hm : m.Calls p) (hk : ∀ a, (k a).Calls p) :
    (m >>= k).Calls p := by
  refine Meets.bind hm hk (fun h => h) ?_
  intro _ _ _ _ _ _ _ h₁ h₂
  exact List.forall_mem_append.mpr ⟨h₁, h₂⟩

/-- The calls of a body with its clean-up are those of the two. -/
theorem ensuring {cleanup : Session σ Unit} (hm : m.Calls p) (hc : cleanup.Calls p) :
    (m.ensuring cleanup).Calls p := by
  refine Meets.ensuring hm hc ?_ ?_
  · intro _ _ _ _ _ _ h₁ h₂
    exact List.forall_mem_append.mpr ⟨h₁, h₂⟩
  · intro _ _ _ _ _ _ _ h₁ h₂
    exact List.forall_mem_append.mpr ⟨h₁, h₂⟩

end Calls

end Session

section

variable [Driver σ]

/-- **One call.**  It is put on the trace with the auto-commit value at that time, and a refusal is
the failure of the call. -/
theorem meets_perform (c : Call) : (perform c : Session σ Unit).Meets fun s es r s' => ∃ fault,
    es = [⟨c, s.autoCommit, fault⟩] ∧ s'.autoCommit = s.autoCommit ∧
      r = match fault with
        | none => .ok ()
        | some f => .error (.fault f) := by
  intro s
  simp only [Session.outcome, Session.after, perform]
  rcases Driver.attempt c s.driver with ⟨_ | f, d⟩
  · exact ⟨_, rfl, none, rfl, rfl, rfl⟩
  · exact ⟨_, rfl, some f, rfl, rfl, rfl⟩

/-- **A change of the mode.**  A refused one leaves the auto-commit value as it was. -/
def ModeSet (on : Bool) : Contract σ Unit := fun s es r s' => ∃ fault,
  es = [⟨.setAutoCommit on, s.autoCommit, fault⟩] ∧
    match fault with
    | none => r = .ok () ∧ s'.autoCommit = .bool on
    | some f => r = .error (.fault f) ∧ s'.autoCommit = s.autoCommit

/-- **Asking for a mode** is one call, and it sets the mode if it is not refused. -/
theorem meets_setAutoCommit (on : Bool) :
    (setAutoCommit on : Session σ Unit).Meets (ModeSet on) := by
  have hset : (do perform (.setAutoCommit on)
                  Session.update fun s => { s with autoCommit := .bool on } :
      Session σ Unit).Meets (ModeSet on) := by
    intro s
    simp only [Session.outcome, Session.after, Session.bind_apply, perform]
    rcases Driver.attempt (.setAutoCommit on) s.driver with ⟨_ | f, d⟩
    · exact ⟨_, rfl, none, rfl, rfl, rfl⟩
    · exact ⟨_, rfl, some f, rfl, rfl, rfl⟩
  intro s
  exact hset (s.log .debug "Setting auto-commit" [("auto_commit", .bool on)])

/-- With auto-commit on nothing has to be committed. -/
theorem commitIfNecessary_of_on {s : Link σ} (h : s.autoCommit.truth = true) :
    (commitIfNecessary : Session σ Unit) s = (.ok (), s) := by
  show (if !s.autoCommit.truth then commit else Pure.pure () : Session σ Unit) s = _
  rw [h]
  rfl

/-- With auto-commit off there is always something to commit. -/
theorem commitIfNecessary_of_off {s : Link σ} (h : s.autoCommit.truth = false) :
    (commitIfNecessary : Session σ Unit) s = perform .commit s := by
  show (if !s.autoCommit.truth then commit else Pure.pure () : Session σ Unit) s = _
  rw [h]
  rfl

/-- One call has the property if it has it in every mode, refused or not. -/
theorem Session.Calls.perform {p : Event → Prop} {c : Call}
    (h : ∀ mode fault, p ⟨c, mode, fault⟩) : (perform c : Session σ Unit).Calls p := by
  refine (meets_perform c).mono ?_
  intro s es r s' hcall e he
  obtain ⟨fault, rfl, _, _⟩ := hcall
  rw [List.mem_singleton.mp he]
  exact h _ _

end

end StagedLoad

import StagedLoad.Proofs.Contract

/-!
# Dialogues with a driver

The trace holds the calls of an operation, but not what the driver tells about those that it
accepts: the row counts of statements and the rows of queries.  A driver is a state machine, so all
of this follows from the calls and from the state that the driver was in before.  The dialogue is
the list of calls with the responses to them.

* `dialogue_append` : the dialogue goes on in the state that the driver was left in.
* `meets_call`, `meets_carryOut`, `meets_fetchRow` : the three ways to make one call.
-/

namespace StagedLoad

variable {σ α β : Type}

/-- What a driver responds to a call. -/
inductive Response where
  | refused (f : Fault)
  /-- A statement was executed and has this row count. -/
  | count (n : Int)
  /-- A row was asked for. -/
  | row (r : Option (List Value))
  | done

/-- A call with the response to it. -/
structure Exchange where
  call : Call
  response : Response

namespace Response

/-- How a call ends, if its answer is read off the response. -/
def result (read : Response → α) : Response → Except Failure α
  | refused f => .error (.fault f)
  | x => .ok (read x)

/-- The row count in the response. -/
def countIn : Response → Int
  | count n => n
  | _ => 0

/-- The row in the response. -/
def rowIn : Response → Option (List Value)
  | row r => r
  | _ => none

/-- The response is one to this call. -/
def Answers (c : Call) : Response → Prop
  | refused _ => True
  | count _ => ∃ q, c = .execute q
  | row _ => c = .fetchOne
  | done => (∀ q, c ≠ .execute q) ∧ c ≠ .fetchOne

end Response

section

variable [Driver σ]

/-- What the driver responds to a call, and its state afterwards. -/
def respond (c : Call) (d : σ) : Response × σ :=
  match Driver.attempt c d with
  | (some f, d) => (.refused f, d)
  | (none, d) =>
    match c with
    | .execute q => let (n, d) := Driver.rowCount q.sql d; (.count n, d)
    | .fetchOne => let (r, d) := Driver.nextRow d; (.row r, d)
    | _ => (.done, d)

/-- The driver responds to the call that it is given. -/
theorem respond_answers (c : Call) (d : σ) : (respond c d).1.Answers c := by
  unfold respond
  rcases Driver.attempt c d with ⟨_ | f, d⟩
  · cases c with
    | execute q => exact ⟨q, rfl⟩
    | fetchOne => rfl
    | _ => exact ⟨fun _ => nofun, nofun⟩
  · trivial

/-- The calls with the responses of the driver. -/
def dialogue : List Event → σ → List Exchange
  | [], _ => []
  | e :: es, d => ⟨e.call, (respond e.call d).1⟩ :: dialogue es (respond e.call d).2

/-- The state that the calls leave the driver in. -/
def leaves : List Event → σ → σ
  | [], d => d
  | e :: es, d => leaves es (respond e.call d).2

theorem leaves_append (es₁ es₂ : List Event) (d : σ) :
    leaves (es₁ ++ es₂) d = leaves es₂ (leaves es₁ d) := by
  induction es₁ generalizing d with
  | nil => rfl
  | cons e es₁ ih => exact ih _

/-- **The dialogue goes on in the state that the driver was left in.** -/
theorem dialogue_append (es₁ es₂ : List Event) (d : σ) :
    dialogue (es₁ ++ es₂) d = dialogue es₁ d ++ dialogue es₂ (leaves es₁ d) := by
  induction es₁ generalizing d with
  | nil => rfl
  | cons e es₁ ih => exact congrArg (_ :: ·) (ih _)

/-! ## The dialogue of a session -/

namespace Session

/-- The calls of the session with the responses of the driver. -/
def talk (m : Session σ α) (s : Link σ) : List Exchange := dialogue (m.issued s) s.driver

/-- The session only adds calls to the trace, and leaves the driver as these leave it. -/
def Heard (m : Session σ α) : Prop := m.Meets fun s es _ s' => s'.driver = leaves es s.driver

theorem Heard.driver {m : Session σ α} (hm : m.Heard) (s : Link σ) :
    (m.after s).driver = leaves (m.issued s) s.driver := Meets.issued hm s

section

variable {m : Session σ α} {k : α → Session σ β} {cleanup : Session σ Unit}

/-- **The dialogue of a sequence**: the second session goes on where the first one stopped. -/
theorem talk_bind_of_ok {s : Link σ} {a : α} (hm : m.Heard) (hk : (k a).Heard)
    (ha : m.outcome s = .ok a) : (m >>= k).talk s = m.talk s ++ (k a).talk (m.after s) := by
  have hissued : (m >>= k).issued s = m.issued s ++ (k a).issued (m.after s) := by
    rw [issued, after, bind_of_ok ha]
    show ((k a).after (m.after s)).trace.drop _ = _
    rw [hk.trace, hm.trace, List.append_assoc, List.drop_left]
  rw [talk, hissued, dialogue_append, talk, talk, hm.driver s]

/-- After a failure nobody talks any more. -/
theorem talk_bind_of_error {s : Link σ} {e : Failure} (he : m.outcome s = .error e) :
    (m >>= k).talk s = m.talk s := by
  rw [talk, issued, after, bind_of_error he]
  rfl

/-- **The dialogue of a body with its clean-up**, whichever way they end. -/
theorem talk_ensuring (hm : m.Heard) (hc : cleanup.Heard) (s : Link σ) :
    (m.ensuring cleanup).talk s = m.talk s ++ cleanup.talk (m.after s) := by
  have hissued : (m.ensuring cleanup).issued s = m.issued s ++ cleanup.issued (m.after s) := by
    rw [issued, after_ensuring, hc.trace, hm.trace, List.append_assoc, List.drop_left]
  rw [talk, hissued, dialogue_append, talk, talk, hm.driver s]

end

namespace Heard

variable {m : Session σ α}

/-- A session that makes no call and leaves the driver alone. -/
theorem of_silent (hm : m.Silent) (hdriver : ∀ s, (m.after s).driver = s.driver) : m.Heard := by
  intro s
  refine ⟨[], ?_, hdriver s⟩
  rw [hm.trace, List.append_nil]

/-- Sessions in sequence are heard if each one is. -/
theorem bind {k : α → Session σ β} (hm : m.Heard) (hk : ∀ a, (k a).Heard) : (m >>= k).Heard := by
  refine Meets.bind hm hk (fun h => h) ?_
  intro s es₁ a mid es₂ r s' h₁ h₂
  rw [h₂, h₁, leaves_append]

/-- A body with its clean-up is heard if both are. -/
theorem ensuring {cleanup : Session σ Unit} (hm : m.Heard) (hc : cleanup.Heard) :
    (m.ensuring cleanup).Heard := by
  have hboth : ∀ {s mid s' : Link σ} {es₁ es₂ : List Event},
      mid.driver = leaves es₁ s.driver → s'.driver = leaves es₂ mid.driver →
      s'.driver = leaves (es₁ ++ es₂) s.driver := by
    intro s mid s' es₁ es₂ h₁ h₂
    rw [h₂, h₁, leaves_append]
  exact Meets.ensuring hm hc hboth hboth

theorem pure (a : α) : (Pure.pure a : Session σ α).Heard := of_silent (.pure a) fun _ => rfl

end Heard

/-- What is said of the end of the session and of its dialogue. -/
def Tells (m : Session σ α) (T : Except Failure α → List Exchange → Prop) : Prop :=
  m.Meets fun s es r s' => s'.driver = leaves es s.driver ∧ T r (dialogue es s.driver)

namespace Tells

variable {T : Except Failure α → List Exchange → Prop} {m : Session σ α}

/-- Less may be said of the end and of the dialogue. -/
theorem mono {P : Except Failure α → List Exchange → Prop} (hm : m.Tells P)
    (h : ∀ {r xs}, P r xs → T r xs) : m.Tells T :=
  Meets.mono hm fun hP => ⟨hP.1, h hP.2⟩

/-- A session that makes no call and leaves the driver alone. -/
theorem of_silent (hm : m.Silent) (hdriver : ∀ s, (m.after s).driver = s.driver)
    (h : ∀ {s a}, m.outcome s = .ok a → T (.ok a) []) : m.Tells T := by
  intro s
  obtain ⟨a, ha⟩ := hm.ok s
  refine ⟨[], ?_, hdriver s, ?_⟩
  · rw [hm.trace, List.append_nil]
  · rw [ha]
    exact h ha

/-- **What a sequence tells**: what its first part tells if that fails, and otherwise both
dialogues, one behind the other. -/
theorem bind {k : α → Session σ β} {Q : α → Except Failure β → List Exchange → Prop}
    {R : Except Failure β → List Exchange → Prop} (hm : m.Tells T) (hk : ∀ a, (k a).Tells (Q a))
    (stopped : ∀ {e xs}, T (.error e) xs → R (.error e) xs)
    (continued : ∀ {xs a ys r}, T (.ok a) xs → Q a r ys → R r (xs ++ ys)) :
    (m >>= k).Tells R := by
  refine Meets.bind hm hk ?_ ?_
  · intro s es e s' h
    exact ⟨h.1, stopped h.2⟩
  · intro s es₁ a mid es₂ r s' h₁ h₂
    obtain ⟨hmid, hT⟩ := h₁
    rw [hmid] at h₂
    rw [leaves_append, dialogue_append]
    exact ⟨h₂.1, continued hT h₂.2⟩

/-- **What a body with its clean-up tells**: both dialogues, and the end of the body unless the
clean-up fails. -/
theorem ensuring {cleanup : Session σ Unit} {Q : Except Failure Unit → List Exchange → Prop}
    {R : Except Failure α → List Exchange → Prop} (hm : m.Tells T) (hc : cleanup.Tells Q)
    (calm : ∀ {r xs ys}, T r xs → Q (.ok ()) ys → R r (xs ++ ys))
    (broken : ∀ {r xs e ys}, T r xs → Q (.error e) ys → R (.error e) (xs ++ ys)) :
    (m.ensuring cleanup).Tells R := by
  refine Meets.ensuring hm hc ?_ ?_
  · intro s es₁ r mid es₂ s' h₁ h₂
    obtain ⟨hmid, hT⟩ := h₁
    rw [hmid] at h₂
    rw [leaves_append, dialogue_append]
    exact ⟨h₂.1, calm hT h₂.2⟩
  · intro s es₁ r mid es₂ e s' h₁ h₂
    obtain ⟨hmid, hT⟩ := h₁
    rw [hmid] at h₂
    rw [leaves_append, dialogue_append]
    exact ⟨h₂.1, broken hT h₂.2⟩

end Tells

end Session

/-! ## Single calls -/

/-- The session makes one call, and its answer is read off the response. -/
def Asks (c : Call) (read : Response → α) : Contract σ α := fun s es r s' =>
  (∃ mode fault, es = [⟨c, mode, fault⟩]) ∧ s'.driver = (respond c s.driver).2 ∧
    r = (respond c s.driver).1.result read

section

variable {c : Call} {read : Response → α} {m : Session σ α}

/-- A session of one call is heard. -/
theorem Session.Heard.of_asks (hm : m.Meets (Asks c read)) : m.Heard := by
  refine hm.mono ?_
  intro s es r s' h
  obtain ⟨⟨mode, fault, rfl⟩, hdriver, _⟩ := h
  exact hdriver

/-- What is said of one call has to hold for every response to it. -/
theorem Session.Tells.of_asks {T : Except Failure α → List Exchange → Prop}
    (hm : m.Meets (Asks c read)) (h : ∀ x : Response, x.Answers c → T (x.result read) [⟨c, x⟩]) :
    m.Tells T := by
  refine hm.mono ?_
  intro s es r s' hasks
  obtain ⟨⟨mode, fault, rfl⟩, hdriver, rfl⟩ := hasks
  exact ⟨hdriver, h _ (respond_answers c s.driver)⟩

/-- The dialogue of one call is the call and the response to it. -/
theorem Session.talk_of_asks (hm : m.Meets (Asks c read)) (s : Link σ) :
    m.talk s = [⟨c, (respond c s.driver).1⟩] := by
  obtain ⟨⟨mode, fault, hes⟩, _⟩ := hm.issued s
  rw [talk, hes]
  rfl

end

/-- A call that asks for nothing. -/
theorem meets_call {c : Call} (hexecute : ∀ q, c ≠ .execute q) (hfetch : c ≠ .fetchOne) :
    (perform c : Session σ Unit).Meets (Asks c fun _ => ()) := by
  have hrespond : ∀ d : σ, respond c d = match Driver.attempt c d with
      | (some f, d) => (.refused f, d)
      | (none, d) => (.done, d) := by
    intro d
    unfold respond
    cases c with
    | execute q => exact absurd rfl (hexecute q)
    | fetchOne => exact absurd rfl hfetch
    | _ => rfl
  intro s
  simp only [Session.outcome, Session.after, Asks, perform, hrespond]
  rcases Driver.attempt c s.driver with ⟨_ | f, d⟩
  · exact ⟨_, rfl, ⟨_, _, rfl⟩, rfl, rfl⟩
  · exact ⟨_, rfl, ⟨_, _, rfl⟩, rfl, rfl⟩

/-- A change of the mode. -/
theorem meets_modeChange (on : Bool) :
    (setAutoCommit on : Session σ Unit).Meets (Asks (.setAutoCommit on) fun _ => ()) := by
  intro s
  simp only [Session.outcome, Session.after, Asks, setAutoCommit, Session.bind_apply, perform,
    respond, say, Session.update, Link.log]
  rcases Driver.attempt (.setAutoCommit on) s.driver with ⟨_ | f, d⟩
  · exact ⟨_, rfl, ⟨_, _, rfl⟩, rfl, rfl⟩
  · exact ⟨_, rfl, ⟨_, _, rfl⟩, rfl, rfl⟩

/-- A statement, whose row count is the answer. -/
theorem meets_carryOut (q : Query) :
    (carryOut q : Session σ Int).Meets (Asks (.execute q) Response.countIn) := by
  intro s
  simp only [Session.outcome, Session.after, Asks, carryOut, Session.bind_apply, perform, respond]
  rcases Driver.attempt (.execute q) s.driver with ⟨_ | f, d⟩
  · exact ⟨_, rfl, ⟨_, _, rfl⟩, rfl, rfl⟩
  · exact ⟨_, rfl, ⟨_, _, rfl⟩, rfl, rfl⟩

/-- A row, which is the answer. -/
theorem meets_fetchRow :
    (do perform .fetchOne; takeRow : Session σ (Option (List Value))).Meets
      (Asks .fetchOne Response.rowIn) := by
  intro s
  simp only [Session.outcome, Session.after, Asks, Session.bind_apply, perform, respond]
  rcases Driver.attempt .fetchOne s.driver with ⟨_ | f, d⟩
  · exact ⟨_, rfl, ⟨_, _, rfl⟩, rfl, rfl⟩
  · exact ⟨_, rfl, ⟨_, _, rfl⟩, rfl, rfl⟩

end

end StagedLoad

import StagedLoad.Database.Script
import StagedLoad.Proofs.Dialogue
import StagedLoad.Proofs.Task

/-!
# The same work for both products

What a writer does for Synapse differs from what it does for SQL Server in mode changes, and so in
commits.  A driver that grants all of these, and answers everything else as if they had not been
made, cannot tell the two apart: it is given the same statements, and answers the same.

* `Indifferent` : such a driver.
* `Session.Alike.bind`, `Session.Alike.ensuring`, `Session.Alike.guard` : sessions with the same
  work are put together to sessions with the same work, and guards add none.
* `products_agree` : the runs of two writers that differ in their product do the same work.
-/

namespace StagedLoad

variable {σ α β : Type}

/-! ## Work -/

/-- The call changes the mode or commits. -/
def Call.isAside : Call → Bool
  | .setAutoCommit _ | .commit => true
  | _ => false

/-- The dialogue without mode changes and commits. -/
def work (xs : List Exchange) : List Exchange := xs.filter fun x => !x.call.isAside

theorem work_append (xs ys : List Exchange) : work (xs ++ ys) = work xs ++ work ys :=
  List.filter_append ..

/-! ## Statements without limits of a product -/

/-- Every CLOB column of the schema has a declared type that is not empty. -/
def Schema.PinsClobs (sch : Schema) : Prop :=
  ∀ c ∈ sch.columns, c.typeName = "CLOB" → isPresent c.declared

instance (sch : Schema) : Decidable sch.PinsClobs :=
  inferInstanceAs (Decidable (∀ c ∈ sch.columns, c.typeName = "CLOB" → isPresent c.declared))

/-- Only the type of CLOB columns depends on the product. -/
theorem createTableSql_congr {sch : Schema} (h : sch.PinsClobs) (q : Quoting) (p p' : Product)
    (t : TableRef) (tableConstraint tableOption : Option Text) :
    createTableSql q p.columnType t sch tableConstraint tableOption =
      createTableSql q p'.columnType t sch tableConstraint tableOption := by
  have hcolumns : sch.columns.map (columnDefinition q p.columnType) =
      sch.columns.map (columnDefinition q p'.columnType) := by
    refine List.map_congr_left ?_
    intro c hc
    by_cases hclob : c.typeName = "CLOB"
    · have hpresent := h c hc hclob
      cases htype : c.declared with
      | none => simp [htype, isPresent] at hpresent
      | some type =>
        rw [htype] at hpresent
        have hne : type.isEmpty = false := by simpa [isPresent] using hpresent
        simp only [columnDefinition, htype, hne, Bool.false_eq_true, if_false]
    · have htype : p.columnType c = p'.columnType c := by
        simp [Product.columnType, hclob]
      simp [columnDefinition, htype]
  rw [createTableSql, createTableSql, hcolumns]

section

variable [Driver σ]

/-- Two states that the driver comes to from the state `d` by the same calls, apart from mode
changes and commits. -/
inductive Twins (d : σ) : σ → σ → Prop where
  | start : Twins d d d
  | both {d₁ d₂ : σ} {c : Call} (hc : c.isAside = false) (h : Twins d d₁ d₂) :
      Twins d (respond c d₁).2 (respond c d₂).2
  | left {d₁ d₂ : σ} {c : Call} (hc : c.isAside = true) (h : Twins d d₁ d₂) :
      Twins d (respond c d₁).2 d₂
  | right {d₁ d₂ : σ} {c : Call} (hc : c.isAside = true) (h : Twins d d₁ d₂) :
      Twins d d₁ (respond c d₂).2

/-- Twins are so either way. -/
theorem Twins.symm {d d₁ d₂ : σ} (h : Twins d d₁ d₂) : Twins d d₂ d₁ := by
  induction h with
  | start => exact .start
  | both hc _ ih => exact .both hc ih
  | left hc _ ih => exact .right hc ih
  | right hc _ ih => exact .left hc ih

/-- From this state on mode changes and commits are granted, and change no other response. -/
structure Indifferent (d : σ) : Prop where
  granted : ∀ {d₁ d₂ : σ} {c : Call}, Twins d d₁ d₂ → c.isAside = true →
    (respond c d₁).1 = .done
  unmoved : ∀ {d₁ d₂ : σ} {c : Call}, Twins d d₁ d₂ → c.isAside = false →
    (respond c d₁).1 = (respond c d₂).1

/-! ## Scripted drivers -/

namespace Script

/-- The rules are about cursors and what is done on them. -/
def AboutCursors (rules : List Rule) : Prop :=
  ∀ r ∈ rules, r.on ∈ (["cursor", "execute", "fetchone", "close_cursor"] : List Text)

instance (rules : List Rule) : Decidable (AboutCursors rules) :=
  inferInstanceAs (Decidable (∀ r ∈ rules, _))

/-- Rules about cursors refuse no mode change and no commit. -/
theorem refuse_aside {rules : List Rule} (h : AboutCursors rules) {c : Call}
    (hc : c.isAside = true) : refuse c rules = (none, rules) := by
  induction rules with
  | nil => rfl
  | cons r rules ih =>
    obtain ⟨hr, hrules⟩ := List.forall_mem_cons.mp h
    have hname : (r.on == c.name) = false := by
      have hnames : ∀ on ∈ (["cursor", "execute", "fetchone", "close_cursor"] : List Text),
          (on == (c.name : Text)) = false := by
        cases c with
        | setAutoCommit on => cases on <;> decide
        | commit => decide
        | _ => cases hc
      exact hnames r.on hr
    have hfits : r.fits c = false := by
      simp only [Rule.fits, hname, Bool.false_and]
    rw [refuse, hfits, ih hrules]
    rfl

/-- The rules that are left after a call are about the same. -/
theorem aboutCursors_refuse {rules : List Rule} (h : AboutCursors rules) (c : Call) :
    AboutCursors (refuse c rules).2 := by
  induction rules with
  | nil => exact h
  | cons r rules ih =>
    obtain ⟨hr, hrules⟩ := List.forall_mem_cons.mp h
    rw [refuse]
    split
    · exact List.forall_mem_cons.mpr ⟨hr, hrules⟩
    · exact List.forall_mem_cons.mpr ⟨hr, ih hrules⟩

/-- A script uses its rules up call by call. -/
theorem rules_respond (c : Call) (d : Script) :
    (respond c d).2.rules = (refuse c d.rules).2 := by
  have hattempt : Driver.attempt c d =
      ((refuse c d.rules).1, { d with rules := (refuse c d.rules).2 }) := rfl
  rw [respond, hattempt]
  rcases refuse c d.rules with ⟨_ | f, rules⟩
  · cases c with
    | execute q =>
      simp only [Driver.rowCount]
      split
      · rfl
      · split <;> rfl
    | fetchOne =>
      simp only [Driver.nextRow]
      split <;> rfl
    | _ => rfl
  · rfl

/-- **Rules about cursors leave a scripted driver indifferent.** -/
theorem indifferent {d : Script} (h : AboutCursors d.rules) : Indifferent d := by
  have hkept : ∀ {d : Script} (c : Call), AboutCursors d.rules →
      AboutCursors (respond c d).2.rules := by
    intro d c hd
    rw [rules_respond]
    exact aboutCursors_refuse hd c
  have haside : ∀ {d : Script} {c : Call}, AboutCursors d.rules → c.isAside = true →
      respond c d = (.done, d) := by
    intro d c hd hc
    unfold respond
    simp only [Driver.attempt, refuse_aside hd hc]
    cases c with
    | setAutoCommit on => rfl
    | commit => rfl
    | _ => cases hc
  have htwins : ∀ {d₁ d₂ : Script}, Twins d d₁ d₂ → d₁ = d₂ ∧ AboutCursors d₁.rules := by
    intro d₁ d₂ ht
    induction ht with
    | start => exact ⟨rfl, h⟩
    | both hc _ ih =>
      obtain ⟨rfl, hd⟩ := ih
      exact ⟨rfl, hkept _ hd⟩
    | left hc _ ih =>
      obtain ⟨rfl, hd⟩ := ih
      rw [haside hd hc]
      exact ⟨rfl, hd⟩
    | right hc _ ih =>
      obtain ⟨rfl, hd⟩ := ih
      rw [haside hd hc]
      exact ⟨rfl, hd⟩
  refine ⟨?_, ?_⟩
  · intro d₁ d₂ c ht hc
    rw [haside (htwins ht).2 hc]
  · intro d₁ d₂ c ht _
    rw [(htwins ht).1]

end Script

/-! ## Unnoticed sessions -/

/-- The session does no work and succeeds. -/
structure Session.Unnoticed (d : σ) (m : Session σ α) : Prop where
  heard : m.Heard
  ok : ∀ {s d'}, Twins d s.driver d' → ∃ a, m.outcome s = .ok a
  idle : ∀ {s d'}, Twins d s.driver d' → work (m.talk s) = []
  twins : ∀ {s d'}, Twins d s.driver d' → Twins d (m.after s).driver d'

namespace Session.Unnoticed

variable {d : σ} {m : Session σ α}

/-- What makes no call is not noticed. -/
theorem of_silent (hm : m.Silent) (hdriver : ∀ s, (m.after s).driver = s.driver) :
    m.Unnoticed d where
  heard := .of_silent hm hdriver
  ok _ := hm.ok _
  idle {s d'} _ := by
    have hissued : m.issued s = [] := by rw [issued, hm.trace, List.drop_length]
    rw [talk, hissued]
    rfl
  twins {s d'} h := by rwa [hdriver]

theorem pure (a : α) : (Pure.pure a : Session σ α).Unnoticed d := of_silent (.pure a) fun _ => rfl

theorem say (severity : Severity) (message : Text) (context : Context) :
    (say severity message context : Session σ Unit).Unnoticed d :=
  of_silent (.say _ _ _) fun _ => rfl

theorem getAutoCommit : (getAutoCommit : Session σ Bool).Unnoticed d :=
  of_silent .getAutoCommit fun _ => rfl

/-- A mode change or a commit. -/
theorem of_asks (hd : Indifferent d) {c : Call} (hc : c.isAside = true) {read : Response → α}
    (hm : m.Meets (Asks c read)) : m.Unnoticed d where
  heard := .of_asks hm
  ok {s d'} h := by
    obtain ⟨_, _, hr⟩ := hm.issued s
    rw [hd.granted h hc] at hr
    exact ⟨_, hr⟩
  idle {s d'} _ := by
    rw [talk_of_asks hm]
    simp [work, hc]
  twins {s d'} h := by
    obtain ⟨_, hdriver, _⟩ := hm.issued s
    rw [hdriver]
    exact .left hc h

/-- Sessions in sequence go unnoticed if each one does. -/
theorem bind {k : α → Session σ β} (hm : m.Unnoticed d) (hk : ∀ a, (k a).Unnoticed d) :
    (m >>= k).Unnoticed d where
  heard := hm.heard.bind fun a => (hk a).heard
  ok {s d'} h := by
    obtain ⟨a, ha⟩ := hm.ok h
    rw [outcome, bind_of_ok ha]
    exact (hk a).ok (hm.twins h)
  idle {s d'} h := by
    obtain ⟨a, ha⟩ := hm.ok h
    rw [talk_bind_of_ok hm.heard (hk a).heard ha, work_append, hm.idle h,
      (hk a).idle (hm.twins h)]
    rfl
  twins {s d'} h := by
    obtain ⟨a, ha⟩ := hm.ok h
    rw [after, bind_of_ok ha]
    exact (hk a).twins (hm.twins h)

/-- An indifferent driver does not notice a mode change. -/
theorem setAutoCommit (hd : Indifferent d) (on : Bool) :
    (setAutoCommit on : Session σ Unit).Unnoticed d := of_asks hd rfl (meets_modeChange on)

/-- An indifferent driver does not notice a commit. -/
theorem commitIfNecessary (hd : Indifferent d) :
    (commitIfNecessary : Session σ Unit).Unnoticed d := by
  refine getAutoCommit.bind fun on => ?_
  cases on with
  | false => exact of_asks hd rfl (meets_call (c := .commit) nofun nofun)
  | true => exact pure ()

end Session.Unnoticed

/-! ## Sessions that do the same work -/

/-- The sessions end the same way, have done the same work, and leave twins. -/
structure Session.Agree (d : σ) (m m' : Session σ α) (s s' : Link σ) : Prop where
  outcome : m.outcome s = m'.outcome s'
  work : work (m.talk s) = work (m'.talk s')
  twins : Twins d (m.after s).driver (m'.after s').driver

/-- The sessions agree on twin drivers. -/
structure Session.Alike (d : σ) (m m' : Session σ α) : Prop where
  heard : m.Heard
  heard' : m'.Heard
  agree : ∀ {s s'}, Twins d s.driver s'.driver → m.Agree d m' s s'

namespace Session.Alike

variable {d : σ} {m m' : Session σ α}

/-- Sessions are alike either way. -/
theorem symm (h : m.Alike d m') : m'.Alike d m where
  heard := h.heard'
  heard' := h.heard
  agree hs := by
    obtain ⟨houtcome, hwork, htwins⟩ := h.agree hs.symm
    exact ⟨houtcome.symm, hwork.symm, htwins.symm⟩

/-- Two sessions without work and without an answer. -/
theorem of_unnoticed {m m' : Session σ Unit} (hm : m.Unnoticed d) (hm' : m'.Unnoticed d) :
    m.Alike d m' where
  heard := hm.heard
  heard' := hm'.heard
  agree hs := by
    obtain ⟨_, hr⟩ := hm.ok hs
    obtain ⟨_, hr'⟩ := hm'.ok hs.symm
    exact ⟨hr.trans hr'.symm, (hm.idle hs).trans (hm'.idle hs.symm).symm,
      (hm'.twins (hm.twins hs).symm).symm⟩

theorem pure (a : α) : (Pure.pure a : Session σ α).Alike d (Pure.pure a) where
  heard := .pure a
  heard' := .pure a
  agree hs := ⟨rfl, by
    rw [(Unnoticed.pure (d := d) a).idle hs, (Unnoticed.pure (d := d) a).idle hs.symm], hs⟩

theorem say (severity : Severity) (message : Text) (context : Context) :
    (say severity message context : Session σ Unit).Alike d (say severity message context) :=
  of_unnoticed (.say _ _ _) (.say _ _ _)

/-- One call that is work. -/
theorem of_asks (hd : Indifferent d) {c : Call} (hc : c.isAside = false) {read : Response → α}
    (hm : m.Meets (Asks c read)) (hm' : m'.Meets (Asks c read)) : m.Alike d m' where
  heard := .of_asks hm
  heard' := .of_asks hm'
  agree {s s'} hs := by
    obtain ⟨_, hdriver, hr⟩ := hm.issued s
    obtain ⟨_, hdriver', hr'⟩ := hm'.issued s'
    refine ⟨?_, ?_, ?_⟩
    · rw [hr, hr', hd.unmoved hs hc]
    · rw [talk_of_asks hm, talk_of_asks hm', hd.unmoved hs hc]
    · rw [hdriver, hdriver']
      exact .both hc hs

/-- **Sequences.** -/
theorem bind {k k' : α → Session σ β} (hm : m.Alike d m') (hk : ∀ a, (k a).Alike d (k' a)) :
    (m >>= k).Alike d (m' >>= k') where
  heard := hm.heard.bind fun a => (hk a).heard
  heard' := hm.heard'.bind fun a => (hk a).heard'
  agree {s s'} hs := by
    obtain ⟨houtcome, hwork, htwins⟩ := hm.agree hs
    cases hr' : m'.outcome s' with
    | error e =>
      have hr := houtcome.trans hr'
      refine ⟨?_, ?_, ?_⟩
      · rw [outcome, outcome, bind_of_error hr, bind_of_error hr']
      · rw [talk_bind_of_error hr, talk_bind_of_error hr', hwork]
      · rw [after, after, bind_of_error hr, bind_of_error hr']
        exact htwins
    | ok a =>
      have hr := houtcome.trans hr'
      obtain ⟨houtcome₂, hwork₂, htwins₂⟩ := (hk a).agree htwins
      refine ⟨?_, ?_, ?_⟩
      · rw [outcome, outcome, bind_of_ok hr, bind_of_ok hr']
        exact houtcome₂
      · rw [talk_bind_of_ok hm.heard (hk a).heard hr, talk_bind_of_ok hm.heard' (hk a).heard' hr',
          work_append, work_append, hwork, hwork₂]
      · rw [after, after, bind_of_ok hr, bind_of_ok hr']
        exact htwins₂

/-- **Bodies with a clean-up.** -/
theorem ensuring {cleanup cleanup' : Session σ Unit} (hm : m.Alike d m')
    (hc : cleanup.Alike d cleanup') : (m.ensuring cleanup).Alike d (m'.ensuring cleanup') where
  heard := hm.heard.ensuring hc.heard
  heard' := hm.heard'.ensuring hc.heard'
  agree {s s'} hs := by
    obtain ⟨houtcome, hwork, htwins⟩ := hm.agree hs
    obtain ⟨houtcome₂, hwork₂, htwins₂⟩ := hc.agree htwins
    refine ⟨?_, ?_, ?_⟩
    · cases hr' : cleanup'.outcome (m'.after s') with
      | error e =>
        have hr := houtcome₂.trans hr'
        rw [outcome, outcome, ensuring_of_error hr, ensuring_of_error hr']
      | ok u =>
        have hr := houtcome₂.trans hr'
        rw [outcome, outcome, ensuring_of_ok hr, ensuring_of_ok hr']
        exact houtcome
    · rw [talk_ensuring hm.heard hc.heard, talk_ensuring hm.heard' hc.heard', work_append,
        work_append, hwork, hwork₂]
    · rw [after_ensuring, after_ensuring]
      exact htwins₂

/-- A session without work may come first. -/
theorem unnoticed_bind [Inhabited β] {n : Session σ β} {k : β → Session σ α}
    (hn : n.Unnoticed d) (hk : ∀ b, (k b).Alike d m') : (n >>= k).Alike d m' where
  heard := hn.heard.bind fun b => (hk b).heard
  heard' := (hk default).heard'
  agree {s s'} hs := by
    obtain ⟨b, hr⟩ := hn.ok hs
    obtain ⟨houtcome, hwork, htwins⟩ := (hk b).agree (hn.twins hs)
    refine ⟨?_, ?_, ?_⟩
    · rw [outcome, bind_of_ok hr]
      exact houtcome
    · rw [talk_bind_of_ok hn.heard (hk b).heard hr, work_append, hn.idle hs, List.nil_append, hwork]
    · rw [after, bind_of_ok hr]
      exact htwins

/-- A session without work may clean up. -/
theorem ensuring_unnoticed {cleanup : Session σ Unit} (hm : m.Alike d m')
    (hc : cleanup.Unnoticed d) : (m.ensuring cleanup).Alike d m' where
  heard := hm.heard.ensuring hc.heard
  heard' := hm.heard'
  agree {s s'} hs := by
    obtain ⟨houtcome, hwork, htwins⟩ := hm.agree hs
    obtain ⟨u, hr⟩ := hc.ok htwins
    refine ⟨?_, ?_, ?_⟩
    · rw [outcome, ensuring_of_ok hr]
      exact houtcome
    · rw [talk_ensuring hm.heard hc.heard, work_append, hc.idle htwins, List.append_nil, hwork]
    · rw [after_ensuring]
      exact hc.twins htwins

/-- **A guard is not noticed**, whichever the product. -/
theorem guard (hd : Indifferent d) (hm : m.Alike d m') (w w' : Writer) :
    (w.inAutoCommit m).Alike d (w'.inAutoCommit m') := by
  have hleft : ∀ {n n' : Session σ α} (v : Writer), n.Alike d n' →
      (v.inAutoCommit n).Alike d n' := by
    intro n n' v hn
    unfold Writer.inAutoCommit
    cases v.product with
    | sqlServer => exact hn
    | synapse =>
      exact unnoticed_bind .getAutoCommit fun before =>
        ensuring_unnoticed (unnoticed_bind (.setAutoCommit hd true) fun _ => hn)
          (.setAutoCommit hd before)
  exact (hleft w' (hleft w hm).symm).symm

/-- Logging the faults of the driver is not noticed. -/
theorem observing (hm : m.Alike d m') (severity : Severity) (message : Text)
    (context : Fault → Context) :
    (m.observing fun f s => s.log severity message (context f)).Alike d
      (m'.observing fun f s => s.log severity message (context f)) := by
  have hleft : ∀ {n n' : Session σ α}, n.Alike d n' →
      (n.observing fun f s => s.log severity message (context f)).Alike d n' := by
    intro n n' hn
    have hsame : ∀ s, (n.observing fun f s => s.log severity message (context f)).outcome s =
          n.outcome s ∧
        ((n.observing fun f s => s.log severity message (context f)).after s).driver =
          (n.after s).driver ∧
        ((n.observing fun f s => s.log severity message (context f)).after s).trace =
          (n.after s).trace := by
      intro s
      simp only [outcome, after, Session.observing]
      rcases n s with ⟨(_ | _ | _ | _ | _ | _) | _, s'⟩
      all_goals exact ⟨rfl, rfl, rfl⟩
    refine ⟨Meets.observing hn.heard (fun _ _ => rfl) fun h => h, hn.heard', ?_⟩
    intro s s' hs
    obtain ⟨houtcome, hwork, htwins⟩ := hn.agree hs
    obtain ⟨hr, hdriver, htrace⟩ := hsame s
    refine ⟨hr.trans houtcome, ?_, ?_⟩
    · rw [talk, issued, htrace]
      exact hwork
    · rw [hdriver]
      exact htwins
  exact (hleft (hleft hm).symm).symm

/-- Whether the answer is read makes no difference to the work. -/
theorem discard (hm : m.Alike d m') : (Functor.discard m).Alike d (Functor.discard m') := by
  rw [discard_eq_bind, discard_eq_bind]
  exact hm.bind fun _ => pure ()

section

variable (hd : Indifferent d)

include hd

/-- Opening and closing a cursor around the same work is the same work. -/
theorem withCursor (hm : m.Alike d m') : (withCursor m).Alike d (withCursor m') :=
  (of_asks hd rfl (meets_call (c := .cursor) nofun nofun)
    (meets_call (c := .cursor) nofun nofun)).bind fun _ =>
      hm.ensuring (of_asks hd rfl (meets_call (c := .closeCursor) nofun nofun)
        (meets_call (c := .closeCursor) nofun nofun))

/-- A statement is the same work for both. -/
theorem carryOut (q : Query) : (carryOut q : Session σ Int).Alike d (carryOut q) :=
  of_asks hd rfl (meets_carryOut q) (meets_carryOut q)

theorem execute (q : Query) : (execute q : Session σ Int).Alike d (execute q) :=
  (say _ _ _).bind fun _ => withCursor hd (carryOut hd q)

theorem run (sql : Text) : (run sql : Session σ Int).Alike d (run sql) := execute hd _

theorem fetchOne (q : Query) :
    (fetchOne q : Session σ (Option (List Value))).Alike d (fetchOne q) :=
  (say _ _ _).bind fun _ => withCursor hd <| (carryOut hd q).discard.bind fun _ =>
    of_asks hd rfl meets_fetchRow meets_fetchRow

theorem tableExists (t : TableRef) : (tableExists t : Session σ Bool).Alike d (tableExists t) :=
  (fetchOne hd _).bind fun _ => pure _

theorem runPresent (sql : Option Text) :
    (runPresent sql : Session σ Unit).Alike d (runPresent sql) := by
  rcases sql with _ | _ | ⟨c, cs⟩
  · exact pure ()
  · exact pure ()
  · exact (run hd (c :: cs)).discard

/-- Tallied statements are the same work for both, by induction on their list. -/
theorem runTallied (statements : List (Tally × Text)) (r : CollectResult) :
    (runTallied statements r : Session σ CollectResult).Alike d (runTallied statements r) := by
  induction statements generalizing r with
  | nil => exact pure r
  | cons statement statements ih => exact (run hd statement.2).bind fun _ => ih _

/-- Only one of the two may have something to commit, and an indifferent driver does not notice
that. -/
theorem commitIfNecessary :
    (commitIfNecessary : Session σ Unit).Alike d commitIfNecessary :=
  of_unnoticed (.commitIfNecessary hd) (.commitIfNecessary hd)

variable (w : Writer) (p : Product)

/-- Where declared types pin the CLOB columns, both create the table by the same statement. -/
theorem createTable (t : TableRef) {sch : Schema} (hsch : sch.PinsClobs)
    (tableConstraint tableOption : Option Text) :
    (w.createTable t sch tableConstraint tableOption : Session σ Unit).Alike d
      ({ w with product := p }.createTable t sch tableConstraint tableOption) := by
  have hbody : (createTableAs w.quoting w.product.columnType t sch tableConstraint tableOption :
      Session σ Unit).Alike d
      (createTableAs w.quoting p.columnType t sch tableConstraint tableOption) := by
    unfold createTableAs
    rw [createTableSql_congr hsch w.quoting w.product p]
    exact (run hd _).discard.bind fun _ => commitIfNecessary hd
  exact (say _ _ _).bind fun _ => guard hd hbody w _

theorem dropTable (t : TableRef) :
    (w.dropTable t : Session σ Unit).Alike d ({ w with product := p }.dropTable t) :=
  guard hd (run hd _).discard w _

/-- Both drop a table if the driver has it, and it has it for both. -/
theorem dropTableIfExists (t : TableRef) :
    (w.dropTableIfExists t : Session σ Unit).Alike d
      ({ w with product := p }.dropTableIfExists t) := by
  refine (tableExists hd t).bind fun found => ?_
  cases found with
  | false => exact pure ()
  | true => exact dropTable hd w p t

/-- An insertion is the same work for both. -/
theorem collectInsert (sources : List TableRef) (sch : Schema) (target : TableRef)
    (truncateFirst : Bool) (preSql postSql : Option Text) :
    (w.collectInsert sources sch target truncateFirst preSql postSql : Session σ Int).Alike d
      ({ w with product := p }.collectInsert sources sch target truncateFirst preSql postSql) := by
  have hrest : (w.collectInsert sources sch target false preSql postSql : Session σ Int).Alike d
      ({ w with product := p }.collectInsert sources sch target false preSql postSql) :=
    (runPresent hd preSql).bind fun _ => (run hd _).bind fun _ =>
      (runPresent hd postSql).bind fun _ => (commitIfNecessary hd).bind fun _ =>
        (say _ _ _).bind fun _ => pure _
  cases truncateFirst with
  | false => exact hrest
  | true => exact (run hd _).discard.bind fun _ => hrest

/-- A merge is the same work for both. -/
theorem collectMerge (sources : List TableRef) (sch : Schema) (target : TableRef) (m : MergeSpec)
    (strategy : MergeStrategy) (preSql postSql : Option Text) :
    (w.collectMerge sources sch target m strategy preSql postSql : Session σ CollectResult).Alike d
      ({ w with product := p }.collectMerge sources sch target m strategy preSql postSql) := by
  refine (say _ _ _).bind fun _ => (observing ?_ _ _ _).bind fun _ => (say _ _ _).bind fun _ =>
    pure _
  exact (runPresent hd preSql).bind fun _ => (runTallied hd _ _).bind fun _ =>
    (runPresent hd postSql).bind fun _ => (commitIfNecessary hd).bind fun _ => pure _

/-- A load is the same work for both, its creation included. -/
theorem load (c : OutputSettings) (sources : List TableRef) {sch : Schema}
    (hsch : sch.PinsClobs) :
    (w.load c sources sch : Session σ CollectResult).Alike d
      ({ w with product := p }.load c sources sch) := by
  rw [w.load_eq, Writer.load_eq]
  refine bind ?_ fun _ => ?_
  · refine (tableExists hd c.target).bind fun found => ?_
    cases found with
    | false => exact createTable hd w p _ hsch _ _
    | true => exact pure ()
  · unfold Writer.collect
    cases c.merge with
    | none => exact (collectInsert hd w p _ _ _ _ _ _).bind fun _ => pure _
    | some m => exact collectMerge hd w p _ _ _ _ _ _ _

end

end Session.Alike

/-! ## Runs -/

/-- The tasks whose work does not depend on the product: a table is renamed by another statement for
each product, and a CLOB column without a declared type is given another type. -/
def Task.IsShared : Task → Prop
  | createTable _ sch _ _ => sch.PinsClobs
  | load _ _ sch => sch.PinsClobs
  | replaceTable .. => False
  | _ => True

instance : (t : Task) → Decidable t.IsShared
  | .createTable _ sch _ _ | .load _ _ sch => inferInstanceAs (Decidable sch.PinsClobs)
  | .replaceTable .. => inferInstanceAs (Decidable False)
  | .dropTable _ | .dropTableIfExists _ | .collectInsert .. | .collectMerge .. | .tableExists _
  | .execute _ | .fetchOne _ | .commitIfNecessary => inferInstanceAs (Decidable True)

/-- **A shared task is the same work for both products.** -/
theorem Task.perform_alike {d : σ} (hd : Indifferent d) (w : Writer) (p : Product) {t : Task}
    (ht : t.IsShared) :
    (t.perform w : Session σ Answer).Alike d (t.perform { w with product := p }) := by
  have hdone : ∀ a : Answer, (pure a : Session σ Answer).Alike d (pure a) := .pure
  cases t with
  | createTable t sch tableConstraint tableOption =>
    exact (Session.Alike.createTable hd w p t ht _ _).bind fun _ => hdone _
  | dropTable t => exact (Session.Alike.dropTable hd w p t).bind fun _ => hdone _
  | dropTableIfExists t => exact (Session.Alike.dropTableIfExists hd w p t).bind fun _ => hdone _
  | replaceTable source target postSql => exact ht.elim
  | collectInsert sources sch target truncateFirst preSql postSql =>
    exact (Session.Alike.collectInsert hd w p _ _ _ _ _ _).bind fun _ => hdone _
  | collectMerge sources sch target m strategy preSql postSql =>
    exact (Session.Alike.collectMerge hd w p _ _ _ _ _ _ _).bind fun _ => hdone _
  | load c sources sch => exact (Session.Alike.load hd w p c sources ht).bind fun _ => hdone _
  | tableExists t => exact (Session.Alike.tableExists hd t).bind fun _ => hdone _
  | execute q => exact (Session.Alike.execute hd q).bind fun _ => hdone _
  | fetchOne q => exact (Session.Alike.fetchOne hd q).bind fun _ => hdone _
  | commitIfNecessary => exact (Session.Alike.commitIfNecessary hd).bind fun _ => hdone _

/-- What a caller and the driver see of an operation of a run: how it ended, and its work. -/
def Stage.view {ι : Type} (st : Stage σ ι α) : Except Failure α × List Exchange :=
  (st.outcome, work (dialogue st.events st.before.driver))

/-- **The product does not change the work.**  Two writers that differ in their product carry out
tasks on equal drivers that have no objection to mode changes and commits: each task ends the same
way in both runs, with the same statements, rows and row counts. -/
theorem products_agree (w : Writer) (p : Product) {tasks : List Task}
    (htasks : ∀ t ∈ tasks, t.IsShared) {s s' : Link σ} (hdriver : s'.driver = s.driver)
    (hindifferent : Indifferent s.driver) :
    (stages (Task.perform w) tasks s).map Stage.view =
      (stages (Task.perform { w with product := p }) tasks s').map Stage.view := by
  have hrun : ∀ {d : σ}, Indifferent d → ∀ {s s' : Link σ}, Twins d s.driver s'.driver →
      (stages (Task.perform w) tasks s).map Stage.view =
        (stages (Task.perform { w with product := p }) tasks s').map Stage.view := by
    intro d hd
    induction tasks with
    | nil => exact fun _ => rfl
    | cons t tasks ih =>
      intro s s' hs
      obtain ⟨ht, htasks⟩ := List.forall_mem_cons.mp htasks
      obtain ⟨houtcome, hwork, htwins⟩ := (Task.perform_alike hd w p ht).agree hs
      have hview : Stage.view (stage (Task.perform w) t s) =
          Stage.view (stage (Task.perform { w with product := p }) t s') :=
        Prod.ext houtcome hwork
      exact List.cons_eq_cons.mpr ⟨hview, ih htasks htwins⟩
  refine hrun hindifferent ?_
  rw [hdriver]
  exact .start

end

/-- A table is created and filled on a driver that refuses the first INSERT and the first closing of
a cursor. -/
theorem refused_insert_agrees :
    let tasks : List Task := [
      .createTable (.make "orders" none none) ⟨[⟨"note", "CLOB", 0, -1, some "TEXT"⟩]⟩ none none,
      .collectInsert [.make "staged" none none] ⟨[⟨"note", "CLOB", 0, -1, some "TEXT"⟩]⟩
        (.make "orders" none none) true none none]
    let driver : Script := { rowCounts := [3, 5], rules := [
      ⟨"execute", ⟨.database, "no space left"⟩, some "INSERT", none, some 1⟩,
      ⟨"close_cursor", ⟨.runtime, "gone"⟩, none, none, some 1⟩] }
    let before : Link Script := { driver }
    (∀ t ∈ tasks, t.IsShared) ∧ Script.AboutCursors driver.rules ∧
      (stages (Task.perform { product := .sqlServer }) tasks before).map Stage.view =
        (stages (Task.perform { product := .synapse }) tasks before).map Stage.view :=
  ⟨by decide, by decide,
    products_agree { product := .sqlServer } .synapse (by decide) rfl
      (Script.indifferent (by decide))⟩

end StagedLoad

import Mathlib.Data.List.Forall2
import StagedLoad.Proofs.JsonObject
import StagedLoad.Proofs.Redaction
import StagedLoad.Value.Equality

/-!
# Lines of the log

A logger in structured mode writes one line for each message that is grave enough.  The line is
printable ASCII, so nothing in a message or its data starts another one, and read as JSON it tells
the time, the severity, the message and the data, without the secrets and nothing else.

* `Notice` : a message whose data are texts.
* `Notice.fields_eq` : the fields of its line; a time among the data is told in place of the other
  one.
* `Journal.records_notices` : a run leaves one line for each message at or above the threshold.
* `structured_lines_faithful` : what the lines of a run tell.
* `halves_side_by_side_misread` : two halves that are a pair are told as the character they make.
-/

namespace StagedLoad

/-! ## Messages -/

/-- A message whose data are texts, under different names none of which belongs to the message or to
the logger. -/
structure Notice where
  severity : Severity
  text : Text
  data : List (Text × Text)
  distinct : (data.map Prod.fst).Nodup
  free : ∀ name ∈ data.map Prod.fst, name ≠ "level" ∧ name ≠ "message" ∧ name ≠ "self"

namespace Notice

/-- The data as they are given to the logger. -/
def context (n : Notice) : Context := n.data.map fun e => (e.1, .text e.2)

/-- The call that logs the message. -/
def call (n : Notice) : LogCall := .log n.severity n.text n.context

/-- The data without the secrets. -/
def redactedData (n : Notice) (secrets : List Text) : List (Text × Text) :=
  n.data.map fun e => (e.1, redactAll secrets e.2)

/-- The level of the message. -/
def level (n : Notice) : Text :=
  match n.severity with
  | .debug => "DEBUG"
  | .info => "INFO"
  | .warning => "WARNING"
  | .error => "ERROR"

/-- The level as a number, which the threshold is compared with. -/
def rank (n : Notice) : Nat :=
  match n.severity with
  | .debug => 10
  | .info => 20
  | .warning => 30
  | .error => 40

/-- The fields of the line: the time, which the data may give, the level, the message, and the rest
of the data. -/
def fields (n : Notice) (stamp : Text) (secrets : List Text) : List (Text × Text) :=
  let data := n.redactedData secrets
  ("timestamp", (data.lookup (.ofString "timestamp")).getD stamp) :: ("level", n.level) ::
    ("message", redactAll secrets n.text) :: data.filter fun e => e.1 != "timestamp"

/-- The line of the message. -/
def line (n : Notice) (stamp : Text) (secrets : List Text) : String :=
  String.ofList (Json.encode (.map (Json.textEntries (n.fields stamp secrets))))

/-- In none of the texts do two halves stand side by side that are a pair. -/
def IsWhole (n : Notice) : Prop := n.text.IsWhole ∧ ∀ e ∈ n.data, e.1.IsWhole ∧ e.2.IsWhole

end Notice

/-! ## Fields -/

namespace Json

/-- A text under a name that is there takes the place of the other one. -/
theorem put_first (k v w : Text) (others : List (Text × Text)) :
    (textEntries ((k, v) :: others)).put (.text k) (.text w) = textEntries ((k, w) :: others) := by
  have hsame : (Value.text k).same (.text k) = true := beq_self_eq_true k
  show (if (Value.text k).same (.text k) then _ else _) = _
  rw [hsame]
  rfl

/-- A text under a new name comes last. -/
theorem put_new {k : Text} {es : List (Text × Text)} (hk : k ∉ es.map Prod.fst) (w : Text) :
    (textEntries es).put (.text k) (.text w) = textEntries (es ++ [(k, w)]) := by
  have habsent : ∀ e ∈ textEntries es, e.1.same (.text k) = false := by
    intro e he
    obtain ⟨e, hmem, rfl⟩ := List.mem_map.mp he
    refine beq_eq_false_iff_ne.mpr ?_
    rintro rfl
    exact hk (List.mem_map_of_mem hmem)
  rw [Entries.put_of_absent habsent, textEntries, textEntries, List.map_append]
  rfl

/-- Data of different names are put behind fields that have none of their names, but for the first
field, whose text they may replace. -/
theorem foldl_put_textEntries {k v : Text} {others data : List (Text × Text)}
    (hdata : (data.map Prod.fst).Nodup)
    (hothers : ∀ name ∈ others.map Prod.fst, name ≠ k ∧ name ∉ data.map Prod.fst) :
    data.foldl (fun es e => Entries.put (.text e.1) (.text e.2) es)
        (textEntries ((k, v) :: others)) =
      textEntries ((k, (data.lookup k).getD v) :: others ++ data.filter fun e => e.1 != k) := by
  induction data generalizing v others with
  | nil => simp [textEntries]
  | cons e data ih =>
    obtain ⟨name, w⟩ := e
    obtain ⟨hname, hdata⟩ := List.nodup_cons.mp hdata
    have hpast : ∀ other ∈ others.map Prod.fst, other ≠ k ∧ other ∉ data.map Prod.fst :=
      fun other hmem => ⟨(hothers other hmem).1, fun h => (hothers other hmem).2 (.tail _ h)⟩
    rw [List.foldl_cons]
    by_cases hk : name = k
    · subst hk
      have hlookup : data.lookup name = none := by
        rw [List.lookup_eq_none_iff]
        intro e he
        exact bne_iff_ne.mpr fun heq => hname (List.mem_map.mpr ⟨e, he, heq.symm⟩)
      rw [put_first, ih hdata hpast, hlookup]
      simp
    · have habsent : name ∉ ((k, v) :: others).map Prod.fst := by
        intro hmem
        rcases List.mem_cons.mp hmem with heq | hmem
        · exact hk heq
        · exact (hothers name hmem).2 List.mem_cons_self
      have hrest : ∀ other ∈ (others ++ [(name, w)]).map Prod.fst,
          other ≠ k ∧ other ∉ data.map Prod.fst := by
        intro other hmem
        rw [List.map_append, List.mem_append] at hmem
        rcases hmem with hmem | hmem
        · exact hpast other hmem
        · obtain rfl := List.mem_singleton.mp hmem
          exact ⟨hk, hname⟩
      have hlookup : ((name, w) :: data).lookup k = data.lookup k := by
        rw [List.lookup_cons, beq_eq_false_iff_ne.mpr (Ne.symm hk)]
      rw [put_new habsent, List.cons_append, ih hdata hrest, hlookup]
      simp [hk]

end Json

namespace Notice

variable (n : Notice) (stamp : Text) (secrets : List Text)

/-- The logger names the level in the same way. -/
theorem name_severity : Text.ofString n.severity.name = n.level := by
  unfold level
  cases n.severity <;> rfl

/-- The logger ranks the level in the same way. -/
theorem rank_severity : n.severity.rank = n.rank := by
  unfold rank
  cases n.severity <;> rfl

/-- Redaction keeps the names of the data. -/
theorem keys_redactedData : (n.redactedData secrets).map Prod.fst = n.data.map Prod.fst := by
  simp [redactedData]

/-- **The logger makes these fields.** -/
theorem fields_eq :
    Logger.fields stamp n.severity (redactAll secrets n.text)
        (({ secrets } : Logger).redactContext n.context) =
      Json.textEntries (n.fields stamp secrets) := by
  have hdata : ((n.redactedData secrets).map Prod.fst).Nodup := by
    rw [keys_redactedData]
    exact n.distinct
  have hothers : ∀ name ∈
      [(("level" : Text), n.level), ("message", redactAll secrets n.text)].map Prod.fst,
      name ≠ "timestamp" ∧ name ∉ (n.redactedData secrets).map Prod.fst := by
    intro name hname
    rw [keys_redactedData]
    rcases List.mem_cons.mp hname with rfl | hname
    · exact ⟨show Text.ofString _ ≠ _ by decide, fun h => (n.free _ h).1 rfl⟩
    · obtain rfl := List.mem_singleton.mp hname
      exact ⟨show Text.ofString _ ≠ _ by decide, fun h => (n.free _ h).2.1 rfl⟩
  have hcontext : ({ secrets } : Logger).redactContext n.context =
      (n.redactedData secrets).map fun e => (e.1, .text e.2) := by
    simp only [Logger.redactContext, context, redactedData, List.map_map]
    rfl
  rw [hcontext, Logger.fields, List.foldl_map, name_severity]
  exact Json.foldl_put_textEntries hdata hothers

/-- The names of the data do not clash with those of the message. -/
theorem clashes_context : n.context.clashes = false := by
  rw [Context.clashes, List.any_eq_false]
  intro e he
  obtain ⟨d, hd, rfl⟩ := List.mem_map.mp he
  obtain ⟨hlevel, hmessage, hself⟩ := n.free d.1 (List.mem_map_of_mem hd)
  simp [hlevel, hmessage, hself]

/-- **A message that comes through leaves its line.** -/
theorem perform_call {j : Journal} {threshold : Nat} (hmode : j.logger.structured = true)
    (hthreshold : j.logger.threshold = .ok threshold) :
    j.perform n.call = { j with
      records := j.records ++
        if threshold ≤ n.rank then [.line (n.line j.stamp j.logger.secrets)]
        else [] } := by
  have hadmits : j.admits n.severity n.context = decide (threshold ≤ n.rank) := by
    have hdrops : j.logger.drops n.severity = !decide (threshold ≤ n.rank) := by
      rw [Logger.drops, hthreshold, ← decide_not, ← rank_severity]
      exact decide_eq_decide.mpr Nat.not_le.symm
    simp [Journal.admits, clashes_context, hdrops, hmode]
  have hline : Message.record (Message.redacted j.logger.secrets
      ⟨j.logger.structured, j.stamp, n.severity, n.text, n.context⟩) =
        .line (n.line j.stamp j.logger.secrets) := by
    rw [Message.record, Message.redacted, hmode]
    exact congrArg (fun es => Record.line (String.ofList (Json.encode (.map es))))
      (n.fields_eq j.stamp j.logger.secrets)
  rw [call, Journal.perform_log, Journal.emission?, hadmits]
  by_cases hrank : threshold ≤ n.rank
  · simp [hrank, Emission.shown, hline]
  · simp [hrank]

end Notice

/-! ## Runs -/

/-- **A run leaves one line for each message at or above the threshold**, and no other record. -/
theorem Journal.records_notices {j : Journal} {threshold : Nat} {secrets : List Text}
    (hmode : j.logger.structured = true) (hthreshold : j.logger.threshold = .ok threshold)
    (hsecrets : j.logger.secrets.Perm secrets) (calls : List (Order × Notice)) :
    ∃ lines, (j.run (calls.map fun c => (c.1, c.2.call))).records =
        j.records ++ lines.map .line ∧
      List.Forall₂ (fun n line => ∃ again, again.Perm secrets ∧ line = n.line j.stamp again)
        ((calls.map Prod.snd).filter fun n => threshold ≤ n.rank) lines := by
  -- Each call may find the secrets in another order, so that every line has an order of its own.
  induction calls generalizing j with
  | nil => exact ⟨[], (List.append_nil _).symm, .nil⟩
  | cons head calls ih =>
    obtain ⟨order, n⟩ := head
    have hperm : (j.arranged order).logger.secrets.Perm secrets :=
      (order.perm j.logger.secrets).trans hsecrets
    have hstep := n.perform_call (j := j.arranged order) hmode hthreshold
    obtain ⟨lines, hrecords, hlines⟩ := ih (j := (j.arranged order).perform n.call)
      (by rw [hstep]; exact hmode) (by rw [hstep]; exact hthreshold) (by rw [hstep]; exact hperm)
    rw [hstep] at hlines
    have hrun : (j.run (((order, n) :: calls).map fun c => (c.1, c.2.call))).records =
        (((j.arranged order).perform n.call).run (calls.map fun c => (c.1, c.2.call))).records :=
      rfl
    rw [hrun, hrecords, hstep]
    by_cases hrank : threshold ≤ n.rank
    · refine ⟨n.line j.stamp (j.arranged order).logger.secrets :: lines, ?_, ?_⟩
      · rw [if_pos hrank, List.append_assoc]
        rfl
      · rw [List.map_cons, List.filter_cons_of_pos (by simpa using hrank)]
        exact .cons ⟨_, hperm, rfl⟩ hlines
    · refine ⟨lines, ?_, ?_⟩
      · rw [if_neg hrank, List.append_nil]
        rfl
      · rw [List.map_cons, List.filter_cons_of_neg (by simpa using hrank)]
        exact hlines

/-! ## What a line tells -/

/-- What the line of a message tells: its fields, as far as JSON tells halves that are a pair from
the character that they make. -/
structure Notice.Tells (n : Notice) (stamp : Text) (secrets : List Text) (line : String) :
    Prop where
  printable : ∀ c ∈ line.toList, Json.IsPrintable c
  told : Json.decode? line = some (.map (Json.toldEntries [] (n.fields stamp secrets)))
  exact : stamp.IsWhole → n.IsWhole →
    Json.decode? line = some (.map (Json.textEntries (n.fields stamp secrets)))

/-- Redaction puts no halves side by side. -/
theorem Text.IsWhole.redactAll {t : Text} (h : t.IsWhole) (secrets : List Text) :
    (redactAll secrets t).IsWhole := by
  intro x y hpair
  cases x with
  | char _ => cases hpair
  | half high =>
    cases y with
    | char _ => cases hpair
    | half low =>
      have hapart : ¬ [Symbol.half high, .half low] <:+: Text.ofString "REDACTED" := by
        intro hpart
        obtain ⟨c, _, hc⟩ := List.mem_map.mp (hpart.subset List.mem_cons_self)
        cases hc
      have hconcealable : IsConcealable [.half high, .half low] :=
        ⟨rfl, by simp, by simp, hapart⟩
      exact hconcealable.hidden_redactAll (h _ _ hpair)

/-- The names of the fields are all different. -/
theorem Notice.nodup_fields (n : Notice) (stamp : Text) (secrets : List Text) :
    ((n.fields stamp secrets).map Prod.fst).Nodup := by
  have hkeys : ((n.redactedData secrets).map Prod.fst).Nodup := by
    rw [keys_redactedData]
    exact n.distinct
  let rest := (n.redactedData secrets).filter fun e => e.1 != Text.ofString "timestamp"
  have hrest : (rest.map Prod.fst).Nodup := hkeys.sublist (List.filter_sublist.map Prod.fst)
  have hnames : ∀ name ∈ rest.map Prod.fst,
      name ≠ "timestamp" ∧ name ≠ "level" ∧ name ≠ "message" := by
    intro name hname
    obtain ⟨e, he, rfl⟩ := List.mem_map.mp hname
    obtain ⟨hmem, htime⟩ := List.mem_filter.mp he
    have hgiven := List.mem_map_of_mem (f := Prod.fst) hmem
    rw [keys_redactedData] at hgiven
    exact ⟨bne_iff_ne.mp htime, (n.free _ hgiven).1, (n.free _ hgiven).2.1⟩
  have hown : [("timestamp" : Text), "level", "message"].Nodup := by decide
  refine List.nodup_append.mpr ⟨hown, hrest, ?_⟩
  rintro name hname _ hother rfl
  obtain ⟨htime, hlevel, hmessage⟩ := hnames name hother
  simp only [List.mem_cons, List.not_mem_nil, or_false] at hname
  rcases hname with hname | hname | hname
  · exact htime hname
  · exact hlevel hname
  · exact hmessage hname

/-- The fields of a message of whole texts are whole. -/
theorem Notice.IsWhole.fields {n : Notice} (h : n.IsWhole) {stamp : Text} (hstamp : stamp.IsWhole)
    (secrets : List Text) : ∀ e ∈ n.fields stamp secrets, e.1.IsWhole ∧ e.2.IsWhole := by
  have hdata : ∀ e ∈ n.redactedData secrets, e.1.IsWhole ∧ e.2.IsWhole := by
    intro e he
    obtain ⟨d, hd, rfl⟩ := List.mem_map.mp he
    exact ⟨(h.2 d hd).1, (h.2 d hd).2.redactAll secrets⟩
  intro e he
  rcases List.mem_cons.mp he with rfl | he
  · refine ⟨Text.isWhole_ofString _, ?_⟩
    cases hlookup : (n.redactedData secrets).lookup (.ofString "timestamp") with
    | none => simpa [hlookup] using hstamp
    | some t =>
      obtain ⟨before, after, hdivided, _⟩ := List.lookup_eq_some_iff.mp hlookup
      have hmem : (Text.ofString "timestamp", t) ∈ n.redactedData secrets := by
        rw [hdivided]
        exact List.mem_append_right _ List.mem_cons_self
      simpa [hlookup] using (hdata _ hmem).2
  rcases List.mem_cons.mp he with rfl | he
  · refine ⟨Text.isWhole_ofString _, ?_⟩
    rw [← name_severity]
    exact Text.isWhole_ofString _
  rcases List.mem_cons.mp he with rfl | he
  · exact ⟨Text.isWhole_ofString _, h.1.redactAll secrets⟩
  · exact hdata e (List.mem_of_mem_filter he)

/-- Whole texts under different names are told as they are. -/
theorem Json.toldEntries_of_isWhole {es : List (Text × Text)} (hes : (es.map Prod.fst).Nodup)
    (hwhole : ∀ e ∈ es, e.1.IsWhole ∧ e.2.IsWhole) : toldEntries [] es = textEntries es := by
  have hpaired : es.map (fun e => (e.1.paired, e.2.paired)) = es := by
    refine (List.map_congr_left fun e he => ?_).trans (List.map_id es)
    obtain ⟨hname, hvalue⟩ := hwhole e he
    rw [Text.paired_of_isWhole hname, Text.paired_of_isWhole hvalue]
    rfl
  have hapart : Entries.AreApart (textEntries es) := by
    refine List.pairwise_map.mpr ((List.pairwise_map.mp hes).imp ?_)
    exact fun hne => beq_eq_false_iff_ne.mpr hne
  calc toldEntries [] es
      = (textEntries (es.map fun e => (e.1.paired, e.2.paired))).foldl
          (fun es e => Entries.put e.1 e.2 es) [] := by
        rw [textEntries, List.foldl_map, List.foldl_map]
        rfl
    _ = textEntries es := by
        rw [hpaired]
        exact Entries.foldl_put hapart

/-- **A line tells its message**, on printable characters. -/
theorem Notice.tells_line (n : Notice) (stamp : Text) (secrets : List Text) :
    n.Tells stamp secrets (n.line stamp secrets) := by
  have htold := Json.decode?_encode_texts (n.fields stamp secrets)
  refine ⟨?_, htold, ?_⟩
  · intro c hc
    rw [Notice.line, String.toList_ofList] at hc
    exact Json.isPrintable_encode_texts hc
  · intro hstamp hwhole
    rw [← Json.toldEntries_of_isWhole (n.nodup_fields stamp secrets)
      (hwhole.fields hstamp secrets)]
    exact htold

/-- **A line tells its message and nothing else.**  In structured mode a run of messages leaves one
line for each of those at or above the threshold, in their order.  A line is printable ASCII, so it
is one line whatever the texts are, and read as JSON it tells the fields of its message, the secrets
gone through in some order: as they are if no halves stand side by side that are a pair.  Otherwise
it tells each such pair as the character that it makes, and of names that are told the same the last
one keeps its text. -/
theorem structured_lines_faithful {j : Journal} {threshold : Nat}
    (hmode : j.logger.structured = true) (hthreshold : j.logger.threshold = .ok threshold)
    (calls : List (Order × Notice)) :
    ∃ lines, (j.run (calls.map fun c => (c.1, c.2.call))).records =
        j.records ++ lines.map .line ∧
      List.Forall₂ (fun n line => ∃ secrets, secrets.Perm j.logger.secrets ∧
          n.Tells j.stamp secrets line)
        ((calls.map Prod.snd).filter fun n => threshold ≤ n.rank) lines := by
  obtain ⟨lines, hrecords, hlines⟩ :=
    Journal.records_notices hmode hthreshold (.refl j.logger.secrets) calls
  refine ⟨lines, hrecords, hlines.imp ?_⟩
  rintro n line ⟨secrets, hperm, rfl⟩
  exact ⟨secrets, hperm, n.tells_line j.stamp secrets⟩

/-- A message that looks like another line, with a time among its data, behind one that is not grave
enough. -/
theorem line_in_message_told :
    let same : Order := ⟨id, fun _ => .refl _⟩
    let quiet : Notice := ⟨.info, "unseen", [], by simp, by simp⟩
    let loud : Notice := ⟨.error, "pw\n\x7b\"level\": \"INFO\"\x7d",
      [("timestamp", "then"), ("user", "\u00E9\x7f\\ 😀")], by decide, by decide⟩
    let j : Journal :=
      { logger := { structured := true, threshold := .ok 40, secrets := ["pw"] }, stamp := "now" }
    let told : List (Text × Text) := [("timestamp", "then"), ("level", "ERROR"),
      ("message", "[REDACTED]\n\x7b\"level\": \"INFO\"\x7d"), ("user", "\u00E9\x7f\\ 😀")]
    j.logger.structured = true ∧ j.logger.threshold = .ok 40 ∧
      ∃ line, (j.run [(same, quiet.call), (same, loud.call)]).records = [.line line] ∧
        (∀ c ∈ line.toList, Json.IsPrintable c) ∧
        Json.decode? line = some (.map (Json.textEntries told)) := by
  intro same quiet loud j told
  refine ⟨rfl, rfl, ?_⟩
  obtain ⟨lines, hrecords, hlines⟩ :=
    structured_lines_faithful (j := j) rfl rfl [(same, quiet), (same, loud)]
  rcases hlines with _ | ⟨⟨secrets, hperm, htells⟩, ⟨⟩⟩
  obtain rfl : secrets = ["pw"] := List.perm_singleton.mp hperm
  have hwhole : loud.IsWhole := by
    refine ⟨Text.isWhole_ofString _, ?_⟩
    rintro e (_ | ⟨_, _ | ⟨_, ⟨⟩⟩⟩) <;> exact ⟨Text.isWhole_ofString _, Text.isWhole_ofString _⟩
  have hfields : loud.fields j.stamp ["pw"] = told := by decide +kernel
  exact ⟨_, hrecords, htells.printable, hfields ▸ htells.exact (Text.isWhole_ofString "now") hwhole⟩

/-- **Halves that stand side by side are not told apart.**  A statement with the two halves of a
pair is told with the character that they make, and of two names that are told the same only one is
left with its text. -/
theorem halves_side_by_side_misread :
    let same : Order := ⟨id, fun _ => .refl _⟩
    let halves : Text := [.half 0x3D, .half 0x600]
    let sql := Text.ofString "DROP TABLE " ++ halves ++ [.half 0x3D]
    let statement : Notice := ⟨.debug, "Executing SQL", [("sql", sql)], by simp, by decide⟩
    let names : Notice :=
      ⟨.debug, "m", [(halves, "first"), ("😀", "second")], by decide, by decide⟩
    let j : Journal := { logger := { structured := true, threshold := .ok 10 }, stamp := "now" }
    ∃ line twins,
      (j.run [(same, statement.call), (same, names.call)]).records = [.line line, .line twins] ∧
      Json.decode? line = some (.map (Json.textEntries [("timestamp", "now"), ("level", "DEBUG"),
        ("message", "Executing SQL"), ("sql", Text.ofString "DROP TABLE 😀" ++ [.half 0x3D])])) ∧
      Json.decode? line ≠ some (.map (Json.textEntries (statement.fields "now" []))) ∧
      Json.decode? twins = some (.map (Json.textEntries [("timestamp", "now"), ("level", "DEBUG"),
        ("message", "m"), ("😀", "second")])) := by
  intro same halves sql statement names j
  have hstatement := (statement.tells_line "now" []).told
  have hnames := (names.tells_line "now" []).told
  refine ⟨statement.line "now" [], names.line "now" [], ?_, hstatement.trans ?_, ?_,
    hnames.trans ?_⟩
  · obtain ⟨_, hrecords, hlines⟩ := Journal.records_notices (j := j) rfl rfl (.refl [])
      [(same, statement), (same, names)]
    rcases hlines with _ | ⟨⟨_, hperm, rfl⟩, _ | ⟨⟨_, hperm', rfl⟩, ⟨⟩⟩⟩
    rw [List.perm_nil.mp hperm, List.perm_nil.mp hperm'] at hrecords
    exact hrecords
  · decide +kernel
  · rw [hstatement]
    decide +kernel
  · decide +kernel

end StagedLoad

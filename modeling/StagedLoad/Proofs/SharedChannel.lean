import StagedLoad.Log.Journal
import StagedLoad.Proofs.Redaction

/-!
# Loggers that share a channel

Loggers are made, configured and given secrets in any order.  What the channel is like is determined
by the last call that made or configured a logger, whichever logger that was; a logger's secrets are
determined by the calls for this logger alone.

* `LogHub.loggers_step_of_ne` : a call changes no logger but the one that it is for.
* `LogHub.Settled.step`, `LogHub.Settled.run` : one call keeps the invariant, and so does a run.
* `channel_settled` : channel and secrets after each call of a run.
-/

namespace StagedLoad

/-! ## Levels -/

/-- The names of the levels, with the levels. -/
def levelNames : List (Text × Nat) := [
  ("CRITICAL", 50), ("FATAL", 50), ("ERROR", 40), ("WARNING", 30), ("WARN", 30), ("INFO", 20),
  ("DEBUG", 10), ("NOTSET", 0)]

/-- The text names a level when it is put in capitals, or it names nothing of the log at all. -/
def IsLevelText (level : Text) : Prop :=
  inCapitals level ∈ levelNames.map Prod.fst ∨ inCapitals level ∉
    levelNames.map Prod.fst ++ ["BASIC_FORMAT", "_STYLES"].map Text.ofString

instance (level : Text) : Decidable (IsLevelText level) := inferInstanceAs (Decidable (_ ∨ _))

/-- The level that the text names, or that of information if it names none. -/
def rankOf (level : Text) : Nat := (levelNames.lookup (inCapitals level)).getD 20

/-- A logger takes the text for the level that it names. -/
theorem IsLevelText.thresholdOf {level : Text} (h : IsLevelText level) :
    thresholdOf level = .ok (rankOf level) := by
  refine thresholdOf_of_plain (List.lookup_eq_none_iff.mpr ?_)
  intro other hother
  refine bne_iff_ne.mpr fun heq => ?_
  have hname : inCapitals level ∈ ["BASIC_FORMAT", "_STYLES"].map Text.ofString := by
    have hother : other.1 ∈ otherWords.map Prod.fst := List.mem_map_of_mem hother
    exact heq ▸ hother
  rcases h with hlevel | hnothing
  · have hdisjoint : ∀ w ∈ levelNames.map Prod.fst,
        w ∉ ["BASIC_FORMAT", "_STYLES"].map Text.ofString := by decide
    exact hdisjoint _ hlevel hname
  · exact hnothing (List.mem_append_right _ hname)

/-- Setting a level sets the logger and the channel. -/
theorem Journal.configure_of_isLevelText {level : Text} (h : IsLevelText level) (j : Journal)
    (structured : Bool) :
    j.configure structured level = (.ok (), { j with
      logger := { j.logger with structured, threshold := .ok (rankOf level) }
      channel := j.channel.setUp structured (rankOf level) }) := by
  rw [configure, h.thresholdOf]

/-! ## The channel -/

/-- The handlers that no logger put there. -/
def foreignOf (handlers : List Handler) : List Handler := handlers.filter (· matches .foreign _)

/-- The channel is as a mode and a level ask for it, with these foreign handlers. -/
structure Channel.IsSetUp (foreign : List Handler) (structured : Bool) (level : Nat) (c : Channel) :
    Prop where
  handlers : c.handlers = foreign ++ [if structured then .lines else .console]
  apart : c.propagate = false
  threshold : c.threshold = level
  libraries : ∀ name ∈ ["sqlalchemy.engine", "sqlalchemy.pool", "pyodbc"].map Text.ofString,
    c.libraryThreshold name = max level 30

/-- The walk that takes the installed handlers away leaves the foreign ones. -/
theorem uninstall_eq_foreignOf (handlers : List Handler) :
    Handler.uninstall handlers = foreignOf handlers := by
  rw [Handler.uninstall_eq_filter, foreignOf]
  congr 1
  funext h
  cases h <;> rfl

/-- **A logger sets the channel up** for its mode and its level. -/
theorem Channel.isSetUp_setUp (structured : Bool) (level : Nat) (c : Channel) :
    (c.setUp structured level).IsSetUp (foreignOf c.handlers) structured level where
  handlers := by
    rw [← uninstall_eq_foreignOf]
    rfl
  apart := rfl
  threshold := rfl
  libraries name hname := if_pos (List.contains_iff_mem.mpr hname)

/-- The foreign handlers stay where they are. -/
theorem Channel.foreignOf_setUp (structured : Bool) (level : Nat) (c : Channel) :
    foreignOf (c.setUp structured level).handlers = foreignOf c.handlers := by
  rw [(c.isSetUp_setUp structured level).handlers, foreignOf, List.filter_append]
  cases structured <;> simp [foreignOf]

/-! ## Secrets -/

/-- One more secret is added, unless it is blank. -/
theorem mem_registerSecret_iff {s secret : Text} {secrets : List Text} :
    s ∈ registerSecret secret secrets ↔ s ∈ secrets ∨ isBlankText s = false ∧ secret = s := by
  refine ⟨fun h => ?_, ?_⟩
  · unfold registerSecret at h
    split at h
    · exact .inl h
    · next hnew =>
      rcases List.mem_append.mp h with hold | hs
      · exact .inl hold
      · obtain rfl := List.mem_singleton.mp hs
        simp only [Bool.or_eq_true, not_or, Bool.not_eq_true] at hnew
        exact .inr ⟨hnew.1, rfl⟩
  · rintro (hold | ⟨hs, rfl⟩)
    · unfold registerSecret
      split
      · exact hold
      · exact List.mem_append_left _ hold
    · exact mem_registerSecret hs secrets

/-! ## Calls -/

namespace HubCall

/-- What the call configures a logger to. -/
def setting? : HubCall → Option (Bool × Text)
  | make structured level => some (structured, level)
  | configure _ structured level => some (structured, level)
  | register _ _ => none

/-- The last setting among the calls, for whichever logger it is. -/
def lastSetting? (calls : List HubCall) : Option (Bool × Text) :=
  (calls.filterMap setting?).getLast?

/-- Whether the call makes a logger. -/
def makes : HubCall → Bool
  | make _ _ => true
  | _ => false

/-- How many loggers the call makes. -/
def made (call : HubCall) : Nat := if call.makes then 1 else 0

/-- How many loggers the calls make. -/
def allMade (calls : List HubCall) : Nat := calls.countP makes

/-- The place of the logger that the call is for, with so many loggers there. -/
def target (count : Nat) : HubCall → Nat
  | make _ _ => count
  | configure i _ _ => i
  | register i _ => i

/-- Whether the call makes a logger or is for one that is there, with so many there. -/
def isFor (count : Nat) : HubCall → Bool
  | make _ _ => true
  | configure i _ _ => i < count
  | register i _ => i < count

/-- Whether each of the calls is for a logger that is there by then. -/
def areAddressed (count : Nat) : List HubCall → Bool
  | [] => true
  | call :: calls => call.isFor count && areAddressed (count + call.made) calls

/-- What the call sets a threshold by is a level. -/
def HasLevelText (call : HubCall) : Prop := ∀ setting ∈ call.setting?, IsLevelText setting.2

instance (call : HubCall) : Decidable call.HasLevelText :=
  inferInstanceAs (Decidable (∀ setting ∈ call.setting?, _))

variable {call : HubCall} {calls : List HubCall} {count : Nat}

/-- Calls are addressed part by part, the later ones to the loggers made before. -/
theorem areAddressed_append (count : Nat) (before after : List HubCall) :
    areAddressed count (before ++ after) =
      (areAddressed count before && areAddressed (count + allMade before) after) := by
  induction before generalizing count with
  | nil => simp [areAddressed, allMade]
  | cons call before ih =>
    have hmade : count + call.made + allMade before = count + allMade (call :: before) := by
      rw [allMade, allMade, List.countP_cons, ← made]
      omega
    rw [List.cons_append, areAddressed, areAddressed, ih, hmade, Bool.and_assoc]

/-- The last setting is that of the last call that has one. -/
theorem lastSetting?_concat (calls : List HubCall) (call : HubCall) :
    lastSetting? (calls ++ [call]) = call.setting?.or (lastSetting? calls) := by
  unfold lastSetting?
  cases h : call.setting? <;> simp [List.filterMap_append, h]

/-- Where a logger was made, there is a setting. -/
theorem exists_lastSetting (h : 0 < allMade calls) :
    ∃ structured level, lastSetting? calls = some (structured, level) := by
  obtain ⟨call, hcall, hmakes⟩ := List.countP_pos_iff.mp h
  cases call with
  | make structured level =>
    have hsetting : (structured, level) ∈ calls.filterMap setting? :=
      List.mem_filterMap.mpr ⟨_, hcall, rfl⟩
    have hlast := List.getLast?_eq_some_getLast (List.ne_nil_of_mem hsetting)
    exact ⟨_, _, hlast⟩
  | _ => cases hmakes

/-- A call is for a logger, one that is there or the one that it makes. -/
theorem made_pos_of_isFor (h : call.isFor count = true) : 0 < count + call.made := by
  cases call with
  | make structured level => exact Nat.succ_pos _
  | configure i structured level => exact Nat.zero_lt_of_lt (of_decide_eq_true h)
  | register i secret => exact Nat.zero_lt_of_lt (of_decide_eq_true h)

end HubCall

/-! ## One call -/

namespace LogHub

/-- The secrets of the logger in a place, none if it is not there. -/
def secretsAt (hub : LogHub) (i : Nat) : List Text := (hub.loggers[i]?.map Logger.secrets).getD []

variable {hub : LogHub} {call : HubCall} {i : Nat} {l : Logger} {s : Text}

/-! What a call comes to, if it is for a logger that is there and its level is one. -/

/-- A new logger sets the channel up. -/
theorem step_make {level : Text} (hlevel : IsLevelText level) (structured : Bool) :
    hub.step (.make structured level) =
      (.ok (), ⟨hub.loggers ++ [{ structured, threshold := .ok (rankOf level) }],
        hub.channel.setUp structured (rankOf level)⟩) := by
  rw [step, Journal.configure_of_isLevelText hlevel]
  rfl

/-- Setting a logger anew sets the channel up anew. -/
theorem step_configure {level : Text} (hlevel : IsLevelText level) (structured : Bool)
    (hl : hub.loggers[i]? = some l) :
    hub.step (.configure i structured level) =
      (.ok (), ⟨hub.loggers.set i { l with structured, threshold := .ok (rankOf level) },
        hub.channel.setUp structured (rankOf level)⟩) := by
  rw [step, hl]
  simp only [Journal.configure_of_isLevelText hlevel]
  rfl

/-- A secret concerns its own logger and no channel. -/
theorem step_register (hl : hub.loggers[i]? = some l) (secret : Text) :
    hub.step (.register i (.text secret)) =
      (.ok (), { hub with
        loggers := hub.loggers.set i { l with secrets := registerSecret secret l.secrets } }) := by
  rw [step, hl]
  rfl

/-- A number below the number of loggers is that of a logger. -/
theorem exists_logger (hi : decide (i < hub.loggers.length) = true) :
    ∃ l, hub.loggers[i]? = some l :=
  ⟨_, List.getElem?_eq_getElem (of_decide_eq_true hi)⟩

section

variable (hfor : call.isFor hub.loggers.length = true) (hlevel : call.HasLevelText)
include hfor hlevel

/-- **What one call does to the channel.**  No call fails.  One with a setting sets the channel up,
and the others leave it as it is. -/
theorem step_channel :
    (hub.step call).1 = .ok () ∧
      (hub.step call).2.channel =
        call.setting?.elim hub.channel fun s => hub.channel.setUp s.1 (rankOf s.2) := by
  cases call with
  | make structured level =>
    rw [step_make (hlevel _ rfl)]
    exact ⟨rfl, rfl⟩
  | configure i structured level =>
    obtain ⟨l, hl⟩ := exists_logger hfor
    rw [step_configure (hlevel _ rfl) structured hl]
    exact ⟨rfl, rfl⟩
  | register i secret =>
    cases secret with
    | text secret =>
      obtain ⟨l, hl⟩ := exists_logger hfor
      rw [step_register hl]
      exact ⟨rfl, rfl⟩
    | _ => exact ⟨rfl, rfl⟩

/-- Only a call that makes a logger changes how many there are. -/
theorem length_loggers_step :
    (hub.step call).2.loggers.length = hub.loggers.length + call.made := by
  cases call with
  | make structured level =>
    rw [step_make (hlevel _ rfl)]
    exact List.length_append
  | configure i structured level =>
    obtain ⟨l, hl⟩ := exists_logger hfor
    rw [step_configure (hlevel _ rfl) structured hl]
    exact List.length_set
  | register i secret =>
    cases secret with
    | text secret =>
      obtain ⟨l, hl⟩ := exists_logger hfor
      rw [step_register hl]
      exact List.length_set
    | _ => rfl

/-- **A call changes no logger but the one that it is for.** -/
theorem loggers_step_of_ne (hi : call.target hub.loggers.length ≠ i) :
    (hub.step call).2.loggers[i]? = hub.loggers[i]? := by
  cases call with
  | make structured level =>
    rw [step_make (hlevel _ rfl)]
    simp only [HubCall.target] at hi
    grind
  | configure k structured level =>
    obtain ⟨l, hl⟩ := exists_logger hfor
    rw [step_configure (hlevel _ rfl) structured hl]
    exact List.getElem?_set_ne hi
  | register k secret =>
    cases secret with
    | text secret =>
      obtain ⟨l, hl⟩ := exists_logger hfor
      rw [step_register hl]
      exact List.getElem?_set_ne hi
    | _ => rfl

/-- **What one call does to the secrets.**  It adds the text that it gives to the logger, unless
this is blank, and takes none away. -/
theorem mem_secretsAt_step :
    s ∈ (hub.step call).2.secretsAt i ↔
      s ∈ hub.secretsAt i ∨ isBlankText s = false ∧ call = .register i (.text s) := by
  -- A call for another logger is none for this one, and leaves it as it is.
  by_cases hi : call.target hub.loggers.length = i
  · subst hi
    cases call with
    | make structured level =>
      rw [step_make (hlevel _ rfl)]
      simp [secretsAt, HubCall.target]
    | configure i structured level =>
      obtain ⟨l, hl⟩ := exists_logger hfor
      have hi : i < hub.loggers.length := of_decide_eq_true hfor
      rw [step_configure (hlevel _ rfl) structured hl]
      simp [secretsAt, HubCall.target, hl, List.getElem?_set_self hi]
    | register i secret =>
      cases secret with
      | text secret =>
        obtain ⟨l, hl⟩ := exists_logger hfor
        have hi : i < hub.loggers.length := of_decide_eq_true hfor
        rw [step_register hl]
        simp [secretsAt, HubCall.target, hl, List.getElem?_set_self hi, mem_registerSecret_iff]
      | _ => simp [step, HubCall.target]
  · have hother : call ≠ .register i (.text s) := by
      rintro rfl
      exact hi rfl
    rw [secretsAt, loggers_step_of_ne hfor hlevel hi, ← secretsAt]
    simp [hother]

end

/-! ## Runs -/

/-- What holds after some calls, on a channel that was given. -/
structure Settled (given : Channel) (calls : List HubCall) (hub : LogHub) : Prop where
  count : hub.loggers.length = HubCall.allMade calls
  foreign : foreignOf hub.channel.handlers = foreignOf given.handlers
  channel : ∀ structured level, HubCall.lastSetting? calls = some (structured, level) →
    hub.channel.IsSetUp (foreignOf given.handlers) structured (rankOf level)
  secrets : ∀ i s, s ∈ hub.secretsAt i ↔
    isBlankText s = false ∧ HubCall.register i (.text s) ∈ calls

namespace Settled

variable {given : Channel} {past calls : List HubCall}

/-- At the beginning there are no loggers. -/
theorem start (given : Channel) : Settled given [] { channel := given } where
  count := rfl
  foreign := rfl
  channel := nofun
  secrets _ _ := by simp [secretsAt]

/-- **One call keeps the invariant.** -/
theorem step (h : Settled given past hub) (hfor : call.isFor hub.loggers.length = true)
    (hlevel : call.HasLevelText) : Settled given (past ++ [call]) (hub.step call).2 := by
  obtain ⟨_, hchannel⟩ := step_channel hfor hlevel
  refine ⟨?_, ?_, ?_, ?_⟩
  · rw [length_loggers_step hfor hlevel, h.count]
    simp [HubCall.allMade, HubCall.made, List.countP_append]
  · rw [hchannel]
    cases call.setting? with
    | none => exact h.foreign
    | some setting => exact (Channel.foreignOf_setUp _ _ _).trans h.foreign
  · intro structured level hlast
    rw [HubCall.lastSetting?_concat] at hlast
    rw [hchannel]
    cases hsetting : call.setting? with
    | none =>
      rw [hsetting] at hlast
      exact h.channel structured level hlast
    | some setting =>
      rw [hsetting] at hlast
      cases hlast
      rw [← h.foreign]
      exact Channel.isSetUp_setUp _ _ _
  · intro i s
    rw [mem_secretsAt_step hfor hlevel, h.secrets i s, List.mem_append, List.mem_singleton,
      ← and_or_left, eq_comm (a := call)]

/-- **A run keeps the invariant.** -/
theorem run (h : Settled given past hub)
    (haddressed : HubCall.areAddressed hub.loggers.length calls = true)
    (hlevels : ∀ call ∈ calls, call.HasLevelText) :
    Settled given (past ++ calls) (hub.run calls) := by
  -- The calls that are left are for loggers that the past has made, or that they make themselves.
  induction calls generalizing past hub with
  | nil =>
    rw [List.append_nil]
    exact h
  | cons call calls ih =>
    obtain ⟨hfor, haddressed⟩ := Bool.and_eq_true_iff.mp haddressed
    obtain ⟨hlevel, hlevels⟩ := List.forall_mem_cons.mp hlevels
    rw [← length_loggers_step hfor hlevel] at haddressed
    rw [List.append_cons]
    exact ih (h.step hfor hlevel) haddressed hlevels

end Settled

end LogHub

/-- **Channel and secrets after each call.**  On a channel with any handlers, let calls make and
configure loggers and give them secrets, in any order, with levels for thresholds.  Then no call
fails, and after each of them

* the handlers of the channel are the foreign ones that were there, in order, and one of the
  loggers: that of JSON lines if the last setting asks for it, and that of plain messages otherwise;
* no message goes to the root, the threshold is the level of the last setting, and the libraries
  have this level or that of a warning, whichever is greater;
* the secrets of a logger are the texts that are not blank and were given to it until then. -/
theorem channel_settled (given : Channel) (before : List HubCall) (call : HubCall)
    (after : List HubCall)
    (haddressed : HubCall.areAddressed 0 (before ++ call :: after) = true)
    (hlevels : ∀ c ∈ before ++ call :: after, c.HasLevelText) :
    let hub := LogHub.run { channel := given } before
    let past := before ++ [call]
    let next := (hub.step call).2
    (hub.step call).1 = .ok () ∧
    (∃ structured level, HubCall.lastSetting? past = some (structured, level) ∧
      next.channel.handlers = given.handlers.filter (· matches .foreign _) ++
        [if structured then .lines else .console] ∧
      next.channel.propagate = false ∧
      next.channel.threshold = rankOf level ∧
      ∀ name ∈ ["sqlalchemy.engine", "sqlalchemy.pool", "pyodbc"].map Text.ofString,
        next.channel.libraryThreshold name = max (rankOf level) 30) ∧
    next.loggers.length = HubCall.allMade past ∧
    ∀ i l, next.loggers[i]? = some l → ∀ s, s ∈ l.secrets ↔
      isBlankText s = false ∧ HubCall.register i (.text s) ∈ past := by
  intro hub past next
  rw [HubCall.areAddressed_append] at haddressed
  obtain ⟨hbefore, hrest⟩ := Bool.and_eq_true_iff.mp haddressed
  obtain ⟨hfor, _⟩ := Bool.and_eq_true_iff.mp hrest
  obtain ⟨hlevelsBefore, hlevelsRest⟩ := List.forall_mem_append.mp hlevels
  have hlevel : call.HasLevelText := hlevelsRest call List.mem_cons_self
  have hbehind : LogHub.Settled given before hub :=
    (LogHub.Settled.start given).run hbefore hlevelsBefore
  rw [Nat.zero_add, ← hbehind.count] at hfor
  obtain ⟨hok, _⟩ := LogHub.step_channel hfor hlevel
  have hsettled : LogHub.Settled given past next := hbehind.step hfor hlevel
  have hmade : 0 < HubCall.allMade past := by
    rw [← hsettled.count, LogHub.length_loggers_step hfor hlevel]
    exact HubCall.made_pos_of_isFor hfor
  obtain ⟨structured, level, hlast⟩ := HubCall.exists_lastSetting hmade
  have hchannel := hsettled.channel structured level hlast
  refine ⟨hok, ⟨structured, level, hlast, hchannel.handlers, hchannel.apart, hchannel.threshold,
    hchannel.libraries⟩, hsettled.count, ?_⟩
  intro i l hl s
  have hsecrets : next.secretsAt i = l.secrets := by rw [LogHub.secretsAt, hl]; rfl
  rw [← hsecrets]
  exact hsettled.secrets i s

/-- Two loggers on a channel with two foreign handlers.  The first one is configured by a text that
names no level and then by one that does, and the secret of the second one stays its own. -/
theorem two_loggers_settled :
    let given : Channel := { handlers := [.foreign 7, .foreign 8] }
    let before : List HubCall := [.make, .make true "debug", .register 0 (.text "key"),
      .register 0 (.text " "), .register 0 (.int 5), .register 1 (.text "token"),
      .configure 1 false "loud"]
    let call : HubCall := .configure 0 true "error"
    let next := ((LogHub.run { channel := given } before).step call).2
    HubCall.areAddressed 0 (before ++ [call]) = true ∧
      (∀ c ∈ before ++ [call], c.HasLevelText) ∧
      next.channel.handlers = [.foreign 7, .foreign 8, .lines] ∧
      next.channel.threshold = 40 ∧
      next.channel.libraryThreshold "pyodbc" = 40 ∧
      ∀ l, next.loggers[0]? = some l →
        ("key" : Text) ∈ l.secrets ∧ (" " : Text) ∉ l.secrets ∧ ("token" : Text) ∉ l.secrets := by
  intro given before call next
  have haddressed : HubCall.areAddressed 0 (before ++ [call]) = true := by decide
  have hlevels : ∀ c ∈ before ++ [call], c.HasLevelText := by decide
  obtain ⟨_, ⟨structured, level, hlast, hhandlers, _, hthreshold, hlibraries⟩, _, hsecrets⟩ :=
    channel_settled given before call [] haddressed hlevels
  have hsetting : HubCall.lastSetting? (before ++ [call]) = some (true, ("error" : Text)) := rfl
  cases hsetting.symm.trans hlast
  refine ⟨haddressed, hlevels, hhandlers, hthreshold.trans (by decide), ?_, ?_⟩
  · exact (hlibraries "pyodbc" (by decide)).trans (by decide)
  · intro l hl
    refine ⟨(hsecrets 0 l hl "key").mpr ⟨by decide, by simp [before]⟩, ?_, ?_⟩
    · intro hblank
      obtain ⟨hblank, _⟩ := (hsecrets 0 l hl " ").mp hblank
      exact absurd hblank (by decide)
    · intro htoken
      obtain ⟨_, hgiven⟩ := (hsecrets 0 l hl "token").mp htoken
      have hnever : ("token" : Text) = "key" ∨ ("token" : Text) = " " := by
        simpa [before, call] using hgiven
      exact absurd hnever (by decide)

end StagedLoad

import StagedLoad.Log.Journal

/-!
# Secrets stay out of the log

A secret is replaced by a mark, one secret after the other, and each replacement changes the text
that the next one looks at.  A secret that holds no bracket of the mark and is no part of the word
between them is gone after its own replacement, and no later one brings it back: an occurrence would
have to lie between two brackets, so it would have been in the text before.

* `redactAll_hides` : this holds for any secrets in any order.
* `Journal.records_run` : what the records of a run are made of.
* `registered_secret_stays_hidden` : from its registration on, a secret is in no record of a run.
-/

namespace StagedLoad

/-! ## Texts -/

/-- Whether a secret can be told from its replacement: it is not blank, holds none of the brackets,
and is no part of the word between them. -/
def isConcealable (secret : Text) : Bool :=
  !isBlankText secret && !secret.contains (.char '[') && !secret.contains (.char ']') &&
    !hasPart "REDACTED" secret

/-- The mark is a word in brackets. -/
theorem redactionMark_eq :
    redactionMark = .char '[' :: (Text.ofString "REDACTED" ++ [.char ']']) := by decide

/-- A concealable secret, by its parts. -/
structure IsConcealable (s : Text) : Prop where
  nonblank : isBlankText s = false
  opening : Symbol.char '[' ∉ s
  closing : Symbol.char ']' ∉ s
  apart : ¬ s <:+: Text.ofString "REDACTED"

theorem IsConcealable.of_check {s : Text} (h : isConcealable s = true) : IsConcealable s := by
  simp only [isConcealable, Bool.and_eq_true, Bool.not_eq_true', List.contains_eq_mem,
    decide_eq_false_iff_not, hasPart_eq_false] at h
  exact ⟨h.1.1.1, h.1.1.2, h.1.2, h.2⟩

variable {s t : Text} {secrets : List Text}

/-- No replacement brings a concealable secret back. -/
theorem IsConcealable.hidden_replacePart (hs : IsConcealable s) (h : ¬ s <:+: t) (part : Text) :
    ¬ s <:+: replacePart t part redactionMark := by
  unfold replacePart
  cases part with
  | nil => exact h
  | cons p ps =>
    rw [redactionMark_eq]
    intro hpart
    rcases infix_of_infix_replaceList hs.opening hs.closing hpart with hword | htext
    · exact hs.apart hword
    · exact h htext

/-- Its own replacement takes a concealable secret away. -/
theorem IsConcealable.hidden_replacePart_self (hs : IsConcealable s) (t : Text) :
    ¬ s <:+: replacePart t s redactionMark := by
  unfold replacePart
  cases s with
  | nil => exact absurd List.nil_infix hs.apart
  | cons p ps =>
    rw [redactionMark_eq]
    exact not_infix_replaceList hs.opening hs.closing hs.apart t

/-- A text that is hidden stays hidden, whichever secrets are replaced. -/
theorem IsConcealable.hidden_redactAll (hs : IsConcealable s) (h : ¬ s <:+: t) :
    ¬ s <:+: redactAll secrets t := by
  induction secrets generalizing t with
  | nil => exact h
  | cons secret secrets ih => exact ih (hs.hidden_replacePart h secret)

/-- **Redaction hides a secret**, whatever the other secrets are and in whatever order they come. -/
theorem redactAll_hides (hs : IsConcealable s) (hmem : s ∈ secrets) (t : Text) :
    ¬ s <:+: redactAll secrets t := by
  induction secrets generalizing t with
  | nil => cases hmem
  | cons secret secrets ih =>
    rcases List.mem_cons.mp hmem with rfl | hmem
    · rw [redactAll, List.foldl_cons]
      have hgone := hs.hidden_replacePart_self t
      exact hs.hidden_redactAll hgone
    · exact ih hmem _

/-- **A text without secrets stays as it is.** -/
theorem redactAll_of_absent (h : ∀ x ∈ secrets, ¬ x <:+: t) : redactAll secrets t = t := by
  induction secrets with
  | nil => rfl
  | cons secret secrets ih =>
    obtain ⟨hsecret, hsecrets⟩ := List.forall_mem_cons.mp h
    have hsame : replacePart t secret redactionMark = t := by
      unfold replacePart
      cases secret with
      | nil => rfl
      | cons p ps => exact replaceList_of_not_infix hsecret
    rw [redactAll, List.foldl_cons, hsame]
    exact ih hsecrets

/-- A text that is not blank is a secret from then on. -/
theorem mem_registerSecret (hs : isBlankText s = false) (secrets : List Text) :
    s ∈ registerSecret s secrets := by
  unfold registerSecret
  rw [hs, Bool.false_or]
  split
  · next hknown => exact List.contains_iff_mem.mp hknown
  · exact List.mem_append_right _ (List.mem_singleton_self s)

/-- A redacted text has nothing more to redact if every secret is concealable. -/
theorem redactAll_again {again : List Text} (hall : ∀ x ∈ secrets, isConcealable x = true)
    (hperm : again.Perm secrets) (t : Text) :
    redactAll again (redactAll secrets t) = redactAll secrets t := by
  refine redactAll_of_absent ?_
  intro x hx
  have hmem : x ∈ secrets := hperm.subset hx
  exact redactAll_hides (.of_check (hall x hmem)) hmem t

/-! ## Messages -/

/-- A message with its data, as it is given or with its texts redacted. -/
structure Message where
  structured : Bool
  stamp : Text
  severity : Severity
  text : Text
  context : Context

/-- The text of an entry of the data, if it is one. -/
def Context.textOf? : Text × Value → Option Text
  | (_, .text t) => some t
  | _ => none

namespace Message

/-- The message with its text and the texts among its data redacted. -/
def redacted (secrets : List Text) (m : Message) : Message :=
  { m with
    text := redactAll secrets m.text
    context := ({ secrets } : Logger).redactContext m.context }

/-- The record of the message. -/
def record (m : Message) : Record :=
  if m.structured then
    .line (String.ofList (Json.encode (.map
      (Logger.fields m.stamp m.severity m.text m.context))))
  else .plain m.severity (m.severity.lead ++ m.text ++ Logger.suffix m.context)

/-- The texts that redaction looks at: that of the message, and those among its data. -/
def texts (m : Message) : List Text := m.text :: m.context.filterMap Context.textOf?

/-- Each of the texts is redacted by itself. -/
theorem texts_redacted (secrets : List Text) (m : Message) :
    (m.redacted secrets).texts = m.texts.map (redactAll secrets) := by
  have hdata (context : Context) :
      (({ secrets } : Logger).redactContext context).filterMap Context.textOf? =
        (context.filterMap Context.textOf?).map (redactAll secrets) := by
    induction context with
    | nil => rfl
    | cons entry context ih =>
      obtain ⟨k, v⟩ := entry
      cases v with
      | text t => exact congrArg (redactAll secrets t :: ·) ih
      | _ => exact ih
  rw [texts, texts, List.map_cons]
  exact congrArg (redactAll secrets m.text :: ·) (hdata m.context)

end Message

/-- A message that was let through, with the secrets in the order in which they were looked for. -/
structure Emission where
  given : Message
  secrets : List Text

/-- The message that is written. -/
def Emission.shown (e : Emission) : Message := e.given.redacted e.secrets

/-- Every text that is shown is a given one with the secrets replaced. -/
theorem Emission.mem_texts_shown {e : Emission} (ht : t ∈ e.shown.texts) :
    ∃ given ∈ e.given.texts, redactAll e.secrets given = t := by
  rw [Emission.shown, Message.texts_redacted] at ht
  exact List.mem_map.mp ht

/-! ## Calls -/

/-- A call of the logger. -/
inductive LogCall where
  | register (secret : Text)
  | configure (structured : Bool) (level : Text)
  | log (severity : Severity) (message : Text) (context : Context)

/-- An order in which the secrets are gone through. -/
structure Order where
  arrange : List Text → List Text
  perm : ∀ secrets, (arrange secrets).Perm secrets

namespace Journal

/-- The journal with its secrets in another order. -/
def arranged (order : Order) (j : Journal) : Journal :=
  { j with logger := { j.logger with secrets := order.arrange j.logger.secrets } }

/-- What a call leaves behind; a refused one changes at most the logger. -/
def perform (j : Journal) : LogCall → Journal
  | .register secret => j.register secret
  | .configure structured level => (j.configure structured level).2
  | .log severity message context => (j.logFree? severity message context).getD j

/-- Whether a message comes through. -/
def admits (j : Journal) (severity : Severity) (context : Context) : Bool :=
  !context.clashes && !j.logger.drops severity &&
    (j.logger.structured || decide (j.channel.effective ≤ severity.rank))

/-- What a call emits. -/
def emission? (j : Journal) : LogCall → Option Emission
  | .log severity text context =>
    if j.admits severity context then
      some ⟨⟨j.logger.structured, j.stamp, severity, text, context⟩, j.logger.secrets⟩
    else none
  | _ => none

/-- The calls one after the other, the secrets in any order for each of them. -/
def run (j : Journal) : List (Order × LogCall) → Journal
  | [] => j
  | (order, call) :: calls => ((j.arranged order).perform call).run calls

/-- What the calls emit. -/
def emissions (j : Journal) : List (Order × LogCall) → List Emission
  | [] => []
  | (order, call) :: calls =>
    ((j.arranged order).emission? call).toList ++
      ((j.arranged order).perform call).emissions calls

/-- A message that comes through leaves one record; one that does not leaves nothing. -/
theorem perform_log (j : Journal) (severity : Severity) (text : Text) (context : Context) :
    j.perform (.log severity text context) =
      { j with
        records := j.records ++
          ((j.emission? (.log severity text context)).map (·.shown.record)).toList } := by
  unfold perform logFree? log emission? admits Logger.record? Logger.drops
  cases hthreshold : j.logger.threshold with
  | error f => simp
  | ok threshold =>
    cases hclash : context.clashes with
    | true => simp [hclash]
    | false =>
      by_cases hrank : severity.rank < threshold
      · simp [hclash, hrank]
      · cases hmode : j.logger.structured with
        | true =>
          simp only [hclash, hrank, Emission.shown, Message.redacted, Message.record]
          rfl
        | false =>
          by_cases hshared : severity.rank < j.channel.effective
          · have hmissed : ¬ j.channel.effective ≤ severity.rank := Nat.not_le_of_lt hshared
            simp [hclash, hrank, hshared, hmissed]
          · have hheard : j.channel.effective ≤ severity.rank := Nat.le_of_not_lt hshared
            simp [hclash, hrank, hshared, hheard, Emission.shown, Message.redacted, Message.record]
            rfl

/-- A call leaves the record of its emission, if it has one. -/
theorem records_perform (j : Journal) (call : LogCall) :
    (j.perform call).records =
      j.records ++ ((j.emission? call).map (·.shown.record)).toList := by
  cases call with
  | register secret => exact (List.append_nil _).symm
  | configure structured level =>
    have hkept : (j.configure structured level).2.records = j.records := by
      unfold configure
      cases thresholdOf level <;> rfl
    exact hkept.trans (List.append_nil _).symm
  | log severity text context => rw [perform_log]

/-- **Every record of a run is one of its messages with the secrets out of it.** -/
theorem records_run (j : Journal) (calls : List (Order × LogCall)) :
    (j.run calls).records = j.records ++ (j.emissions calls).map (·.shown.record) := by
  induction calls generalizing j with
  | nil => exact (List.append_nil _).symm
  | cons head calls ih =>
    obtain ⟨order, call⟩ := head
    have hfirst := records_perform (j.arranged order) call
    rw [run, ih, hfirst, emissions, List.map_append, ← List.append_assoc]
    cases (j.arranged order).emission? call <;> rfl

/-- No call forgets a secret. -/
theorem secrets_perform (j : Journal) (call : LogCall) :
    j.logger.secrets ⊆ (j.perform call).logger.secrets := by
  cases call with
  | register secret =>
    show j.logger.secrets ⊆ registerSecret secret j.logger.secrets
    unfold registerSecret
    split
    · exact List.Subset.refl _
    · exact List.subset_append_left _ _
  | configure structured level =>
    have hkept : (j.configure structured level).2.logger.secrets = j.logger.secrets := by
      unfold configure
      cases thresholdOf level <;> rfl
    exact hkept ▸ List.Subset.refl _
  | log severity text context =>
    rw [perform_log]
    exact List.Subset.refl _

theorem run_append (j : Journal) (before after : List (Order × LogCall)) :
    j.run (before ++ after) = (j.run before).run after := by
  induction before generalizing j with
  | nil => rfl
  | cons head before ih => exact ih _

/-- What a run emits comes part by part. -/
theorem emissions_append (j : Journal) (before after : List (Order × LogCall)) :
    j.emissions (before ++ after) = j.emissions before ++ (j.run before).emissions after := by
  induction before generalizing j with
  | nil => rfl
  | cons head before ih =>
    rw [List.cons_append, emissions, emissions, ih, List.append_assoc]
    rfl

/-- What is a secret at the beginning of a run is one for each of its messages. -/
theorem secrets_emissions {calls : List (Order × LogCall)} {e : Emission} (j : Journal)
    (he : e ∈ j.emissions calls) : j.logger.secrets ⊆ e.secrets := by
  induction calls generalizing j with
  | nil => cases he
  | cons head calls ih =>
    obtain ⟨order, call⟩ := head
    have harranged : j.logger.secrets ⊆ (j.arranged order).logger.secrets :=
      (order.perm j.logger.secrets).symm.subset
    rcases List.mem_append.mp he with hnow | hlater
    · have hsecrets : e.secrets = (j.arranged order).logger.secrets := by
        cases call with
        | log severity text context =>
          simp only [emission?, Option.mem_toList, Option.ite_none_right_eq_some,
            Option.some.injEq] at hnow
          rw [← hnow.2]
        | _ => cases hnow
      exact hsecrets ▸ harranged
    · have hkept := secrets_perform (j.arranged order) call
      exact List.Subset.trans harranged (List.Subset.trans hkept (ih _ hlater))

/-- A secret that was registered before a message is one of those that are looked for in it. -/
theorem mem_secrets_of_registered (hs : isBlankText s = false) (order : Order) (j : Journal)
    {before after : List (Order × LogCall)} {e : Emission}
    (he : e ∈ (j.run (before ++ [(order, .register s)])).emissions after) : s ∈ e.secrets := by
  have hknown : s ∈ (j.run (before ++ [(order, .register s)])).logger.secrets := by
    rw [run_append]
    exact mem_registerSecret hs _
  exact secrets_emissions _ he hknown

/-- The records of a run in which a secret is registered. -/
theorem records_run_register (s : Text) (order : Order) (j : Journal)
    (before after : List (Order × LogCall)) :
    (j.run (before ++ (order, .register s) :: after)).records = j.records ++
      (j.emissions before ++
        (j.run (before ++ [(order, .register s)])).emissions after).map (·.shown.record) := by
  rw [records_run, emissions_append, run_append]
  rfl

end Journal

/-- **A registered secret stays hidden.**  The secrets are gone through in any order, another one
for each call.  After the registration a concealable secret is in no text that a message is written
with.  Redacted texts have nothing more to redact if every secret is concealable, and a text without
secrets is written as it is. -/
theorem registered_secret_stays_hidden {s : Text} (hs : isConcealable s = true) (order : Order)
    (j : Journal) (before after : List (Order × LogCall)) :
    let registered := j.run (before ++ [(order, .register s)])
    let messages := j.emissions before ++ registered.emissions after
    (j.run (before ++ (order, .register s) :: after)).records =
      j.records ++ messages.map (·.shown.record) ∧
    (∀ e ∈ registered.emissions after, ∀ t ∈ e.shown.texts, hasPart t s = false) ∧
    ∀ e ∈ messages,
      e.shown.texts = e.given.texts.map (redactAll e.secrets) ∧
      ((∀ x ∈ e.secrets, isConcealable x = true) →
        ∀ again, again.Perm e.secrets → ∀ t ∈ e.shown.texts, redactAll again t = t) ∧
      ∀ t ∈ e.given.texts, (∀ x ∈ e.secrets, hasPart t x = false) →
        redactAll e.secrets t = t := by
  intro registered messages
  refine ⟨Journal.records_run_register s order j before after, ?_, ?_⟩
  · intro e he t ht
    obtain ⟨given, _, rfl⟩ := Emission.mem_texts_shown ht
    have hmem : s ∈ e.secrets :=
      Journal.mem_secrets_of_registered (IsConcealable.of_check hs).nonblank order j he
    exact hasPart_eq_false.mpr (redactAll_hides (.of_check hs) hmem given)
  · intro e _
    refine ⟨Message.texts_redacted e.secrets e.given, ?_, ?_⟩
    · intro hall again hperm t ht
      obtain ⟨given, _, rfl⟩ := Emission.mem_texts_shown ht
      exact redactAll_again hall hperm given
    · intro t _ habsent
      refine redactAll_of_absent ?_
      intro x hx
      exact hasPart_eq_false.mp (habsent x hx)

/-- Two secrets that overlap, the later one looked for first. -/
theorem overlapping_secrets_stay_hidden :
    let reversed : Order := ⟨List.reverse, List.reverse_perm⟩
    let registered := ({} : Journal).run ([] ++ [(reversed, .register "abab")])
    let calls : List (Order × LogCall) :=
      [(reversed, .register "ba"), (reversed, .log .error "xababa" [("k", .text "cabab")])]
    (registered.emissions calls).map (·.shown.texts) =
      [[("xa[REDACTED][REDACTED]" : Text), ("ca[REDACTED]b" : Text)]] ∧
    ∀ e ∈ registered.emissions calls, ∀ t ∈ e.shown.texts, hasPart t "abab" = false := by
  intro reversed registered calls
  have hshown := (registered_secret_stays_hidden (s := "abab") (by decide) reversed {} [] calls).2.1
  exact ⟨by decide +kernel, hshown⟩

end StagedLoad

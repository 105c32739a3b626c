import StagedLoad.Proofs.Redaction

/-!
# Secrets among the data of a message

The data that go with a message are texts, numbers, and lists and maps of such.  Redaction looks at
those that are texts themselves; a list or a map is passed on as it is, and with it every text
inside.  So a secret that was registered is among the data of a written message if and only if it
was inside a list or a map of the data that were given.

* `Value.Holds` : the texts of a value at any depth.
* `data_redacted_at_top` : where a secret is left among the data of a message.
-/

namespace StagedLoad

namespace Value

/-- The text is the value or inside of it, at any depth. -/
inductive Holds (t : Text) : Value → Prop
  | text : Holds t (.text t)
  | item {xs : List Value} {x : Value} (hx : x ∈ xs) (h : Holds t x) : Holds t (.list xs)
  | key {es : List (Value × Value)} {k v : Value} (he : (k, v) ∈ es) (h : Holds t k) :
    Holds t (.map es)
  | member {es : List (Value × Value)} {k v : Value} (he : (k, v) ∈ es) (h : Holds t v) :
    Holds t (.map es)
  | cell {cells : List Value} {n : Nat} {v : Value} (hv : v ∈ cells) (h : Holds t v) :
    Holds t (.knot cells n)

/-- Whether the value is a list or a map. -/
def isCollection : Value → Bool
  | list _ => true
  | map _ => true
  | knot _ _ => true
  | _ => false

/-- What holds a text is that text or a collection. -/
theorem Holds.eq_text_or {t : Text} {v : Value} (h : v.Holds t) :
    v = .text t ∨ v.isCollection = true := by
  cases h with
  | text => exact .inl rfl
  | _ => exact .inr rfl

end Value

namespace Emission

variable {e : Emission} {k t : Text} {v : Value}

/-- A text among the written data is one of the given ones without the secrets. -/
theorem mem_context_shown_text (h : (k, .text t) ∈ e.shown.context) :
    ∃ given, redactAll e.secrets given = t := by
  obtain ⟨⟨k', v'⟩, _, hentry⟩ := List.mem_map.mp h
  cases v' with
  | text given =>
    cases hentry
    exact ⟨given, rfl⟩
  | _ => cases hentry

/-- Lists and maps are passed on as they are. -/
theorem mem_context_shown_collection (hv : v.isCollection = true) :
    (k, v) ∈ e.shown.context ↔ (k, v) ∈ e.given.context := by
  constructor
  · intro h
    obtain ⟨⟨k', v'⟩, hgiven, hentry⟩ := List.mem_map.mp h
    cases v' with
    | text given =>
      cases hentry
      cases hv
    | _ =>
      cases hentry
      exact hgiven
  · intro h
    refine List.mem_map.mpr ⟨(k, v), h, ?_⟩
    cases v with
    | text given => cases hv
    | _ => rfl

end Emission

/-- **Texts among the data are redacted, what is inside of lists and maps is not.**  After its
registration a concealable secret is in none of the texts of the data that a message is written
with; lists and maps are written as they are given.  So a text at some depth of the written data
holds the secret if and only if one inside of a list or a map of the given data does. -/
theorem data_redacted_at_top {s : Text} (hs : isConcealable s = true) (order : Order)
    (j : Journal) (before after : List (Order × LogCall)) :
    let registered := j.run (before ++ [(order, .register s)])
    (j.run (before ++ (order, .register s) :: after)).records = j.records ++
      (j.emissions before ++ registered.emissions after).map (·.shown.record) ∧
    ∀ e ∈ registered.emissions after,
      (∀ k t, (k, .text t) ∈ e.shown.context → hasPart t s = false) ∧
      (∀ k v, v.isCollection = true →
        ((k, v) ∈ e.shown.context ↔ (k, v) ∈ e.given.context)) ∧
      ((∃ k v t, (k, v) ∈ e.shown.context ∧ v.Holds t ∧ hasPart t s = true) ↔
        ∃ k v t, (k, v) ∈ e.given.context ∧ v.isCollection = true ∧ v.Holds t ∧
          hasPart t s = true) := by
  intro registered
  refine ⟨Journal.records_run_register s order j before after, ?_⟩
  intro e he
  have hconcealable := IsConcealable.of_check hs
  have hmem : s ∈ e.secrets := Journal.mem_secrets_of_registered hconcealable.nonblank order j he
  have htexts : ∀ k t, (k, .text t) ∈ e.shown.context → hasPart t s = false := by
    intro k t ht
    obtain ⟨given, rfl⟩ := Emission.mem_context_shown_text ht
    exact hasPart_eq_false.mpr (redactAll_hides hconcealable hmem given)
  refine ⟨htexts, fun k v => Emission.mem_context_shown_collection, ?_⟩
  constructor
  · rintro ⟨k, v, t, hv, hholds, hpart⟩
    rcases hholds.eq_text_or with rfl | hcollection
    · rw [htexts k t hv] at hpart
      cases hpart
    · exact ⟨k, v, t, (Emission.mem_context_shown_collection hcollection).mp hv, hcollection,
        hholds, hpart⟩
  · rintro ⟨k, v, t, hv, hcollection, hholds, hpart⟩
    exact ⟨k, v, t, (Emission.mem_context_shown_collection hcollection).mpr hv, hholds, hpart⟩

/-- A secret in a text and inside of a map. -/
theorem secret_left_in_map :
    let same : Order := ⟨id, fun _ => .refl _⟩
    let registered := ({} : Journal).run ([(same, .configure true "DEBUG")] ++
      [(same, .register "pw")])
    let nested : Value := .map [(.text "login", .list [.text "a pw"])]
    let calls : List (Order × LogCall) :=
      [(same, .log .debug "m" [("k", .text "a pw"), ("rows", .int 3), ("options", nested)])]
    isConcealable "pw" = true ∧
      (registered.emissions calls).length = 1 ∧
      ∀ e ∈ registered.emissions calls,
        (∀ k t, (k, .text t) ∈ e.shown.context → hasPart t "pw" = false) ∧
        ∃ k v t, (k, v) ∈ e.shown.context ∧ v.Holds t ∧ hasPart t "pw" = true := by
  intro same registered nested calls
  have hs : isConcealable "pw" = true := by decide
  obtain ⟨_, hmessages⟩ := data_redacted_at_top hs same {} [(same, .configure true "DEBUG")] calls
  refine ⟨hs, by decide +kernel, ?_⟩
  intro e he
  obtain ⟨htexts, _, hleft⟩ := hmessages e he
  refine ⟨htexts, hleft.mpr ⟨"options", nested, "a pw", ?_, rfl, ?_, by decide⟩⟩
  · obtain rfl := List.mem_singleton.mp he
    simp
  · exact .member (List.mem_singleton_self _) (.item (List.mem_singleton_self _) .text)

/-- A secret inside of a list is written. -/
theorem secret_in_list_is_written :
    ¬ ∀ (s : Text) (order : Order) (j : Journal) (before after : List (Order × LogCall)),
      isConcealable s = true →
      ∀ e ∈ (j.run (before ++ [(order, .register s)])).emissions after,
        ∀ k v t, (k, v) ∈ e.shown.context → v.Holds t → hasPart t s = false := by
  intro hall
  let same : Order := ⟨id, fun _ => .refl _⟩
  let data : Context := [("merge_keys", .list [.text "pw"])]
  let e : Emission := ⟨⟨false, [], .error, "Merge failed", data⟩, ["pw"]⟩
  have hemitted : e ∈ (({} : Journal).run ([] ++ [(same, .register "pw")])).emissions
      [(same, .log .error "Merge failed" data)] := List.mem_singleton_self _
  have hshown : (("merge_keys" : Text), Value.list [.text "pw"]) ∈ e.shown.context :=
    List.mem_singleton_self _
  have hhidden := hall "pw" same {} [] _ (by decide) e hemitted _ _ "pw" hshown
    (.item (List.mem_singleton_self _) .text)
  revert hhidden
  decide

end StagedLoad

/-!
# Checked data

The result of checking data: a value, or every fault that was found.  Independent parts are all
checked, so the faults of a record are those of all its fields, in the order of the fields.

* `Checked.andThen_eq_ok` : what passes both checks.
* `Checked.seq_eq_ok` : what passes has parts that pass.
-/

namespace StagedLoad

/-- A step on the way to the place of a fault. -/
inductive Segment where
  | field (name : String)
  | index (i : Nat)
deriving DecidableEq, Repr

/-- A step as text. -/
def Segment.text : Segment → String
  | field name => name
  | index i => toString i

/-- A rule of the settings that data of the right shape can break. -/
inductive Refusal where
  | credentialsMissing
  | keysEmpty
  | ruleEmpty
  | tableBlank
deriving DecidableEq, Repr

/-- What is said of a broken rule. -/
def Refusal.message : Refusal → String
  | credentialsMissing => "auth_mode 'sql' requires username and password"
  | keysEmpty => "merge keys must not be empty"
  | ruleEmpty => "merge rule must contain at least one fragment when set"
  | tableBlank => "table must not be blank"

/-- What is wrong with a piece of data. -/
inductive Reason where
  | missing
  | notText
  | notUtf8
  | notInteger
  | notIntegerText
  | fractional
  | tooLarge
  | notFinite
  | notChoice (choices : String)
  | notList
  | notRecord (record : String)
  | refused (rule : Refusal)
deriving DecidableEq, Repr

/-- What is said of a fault. -/
def Reason.message : Reason → String
  | missing => "Field required"
  | notText => "Input should be a valid string"
  | notUtf8 => "Input should be a valid string, unable to parse raw data as a unicode string"
  | notInteger => "Input should be a valid integer"
  | notIntegerText => "Input should be a valid integer, unable to parse string as an integer"
  | fractional => "Input should be a valid integer, got a number with a fractional part"
  | tooLarge => "Unable to parse input string as an integer, exceeded maximum size"
  | notFinite => "Input should be a finite number"
  | notChoice choices => "Input should be " ++ choices
  | notList => "Input should be a valid list"
  | notRecord record => "Input should be a valid dictionary or instance of " ++ record
  | refused rule => "Value error, " ++ rule.message

/-- A fault and its place. -/
structure Issue where
  path : List Segment := []
  reason : Reason
deriving DecidableEq, Repr

/-- The place with dots between its steps, and what is wrong there. -/
def Issue.text (i : Issue) : String :=
  ".".intercalate (i.path.map Segment.text) ++ ": " ++ i.reason.message

/-- A value that passed its checks, or the faults. -/
inductive Checked (α : Type) where
  | ok (a : α)
  | faulty (issues : List Issue)

namespace Checked

variable {α β : Type}

/-- The faults. -/
def issues : Checked α → List Issue
  | ok _ => []
  | faulty is => is

/-- One fault, here. -/
def fault (r : Reason) : Checked α := faulty [⟨[], r⟩]

/-- The faults of a part, seen from the whole. -/
def under (s : Segment) : Checked α → Checked α
  | ok a => ok a
  | faulty is => faulty (is.map fun i => { i with path := s :: i.path })

/-- A further check on a value that has passed. -/
def andThen (x : Checked α) (f : α → Checked β) : Checked β :=
  match x with
  | ok a => f a
  | faulty is => faulty is

/-- Applies a checked function to a checked argument; the faults of both are kept. -/
def app (f : Checked (α → β)) (x : Checked α) : Checked β :=
  match f, x with
  | ok f, ok a => ok (f a)
  | ok _, faulty is => faulty is
  | faulty is, ok _ => faulty is
  | faulty is, faulty js => faulty (is ++ js)

instance : Applicative Checked where
  pure := ok
  seq f x := app f (x ())

/-- The members of a list, each checked at its index. -/
def eachFrom (i : Nat) (f : α → Checked β) : List α → Checked (List β)
  | [] => ok []
  | x :: xs => List.cons <$> (f x).under (.index i) <*> eachFrom (i + 1) f xs

/-- The place of faults has no part in success. -/
@[simp] theorem under_eq_ok {s : Segment} {x : Checked α} {a : α} :
    x.under s = ok a ↔ x = ok a := by
  cases x <;> simp [under]

/-- A check and another one behind it succeed one after the other. -/
@[simp] theorem andThen_eq_ok {x : Checked α} {f : α → Checked β} {b : β} :
    x.andThen f = ok b ↔ ∃ a, x = ok a ∧ f a = ok b := by
  cases x <;> simp [andThen]

@[simp] theorem map_eq_ok {f : α → β} {x : Checked α} {b : β} :
    f <$> x = ok b ↔ ∃ a, x = ok a ∧ f a = b := by
  cases x <;> simp [Functor.map, app]

@[simp] theorem seq_eq_ok {f : Checked (α → β)} {x : Checked α} {b : β} :
    f <*> x = ok b ↔ ∃ g a, f = ok g ∧ x = ok a ∧ g a = b := by
  cases f <;> cases x <;> simp [Seq.seq, app]

end Checked

end StagedLoad

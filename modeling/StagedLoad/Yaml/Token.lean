import StagedLoad.Text

/-!
# Tokens and faults

What a document is made of, and what can be wrong with it.

The start of a block and the key of a simple entry have no characters of their own: the scanner puts
their tokens where the layout asks for them.  Of the faults nearly everything is one, that the
document is not well formed; a scalar with an explicit or implied type can also denote no value of
its type.

* `Yaml.bind_ok`, `Yaml.bind_error` : a step of a reader with and without a fault.
-/

namespace StagedLoad

/-! ## Faults -/

/-- What is wrong with a document. -/
inductive DocumentFault where
  /-- The text is no document, or uses a tag that has no meaning, or a key that is no key. -/
  | malformed
  /-- A numeral or a date that denotes no number and no day. -/
  | noSuchValue
  /-- A number that is written with no characters. -/
  | emptyNumber
  /-- A truth value that is none of the words for it. -/
  | noTruthWord
  /-- A date that is not written as one. -/
  | noDateForm
  /-- A date that is written as a map. -/
  | dateInMap
  /-- A number that is too large to be handled. -/
  | overflow
  /-- Something that lies inside itself, or too deep inside of something else. -/
  | endless
deriving DecidableEq, Repr

namespace Yaml

variable {σ α β : Type} {r : StateT σ (Except DocumentFault) α}
  {k : α → StateT σ (Except DocumentFault) β} {s s' : σ}

/-- A step without a fault goes on with what it leaves. -/
theorem bind_ok {a : α} (h : r s = .ok (a, s')) : (r >>= k) s = k a s' := by
  show Except.bind (r s) _ = _
  rw [h]
  rfl

/-- Behind a fault there is nothing. -/
theorem bind_error {f : DocumentFault} (h : r s = .error f) : (r >>= k) s = .error f := by
  show Except.bind (r s) _ = _
  rw [h]
  rfl

/-! ## Tokens -/

/-- A directive before a document. -/
inductive Directive where
  | version (major : Nat)
  | tag (handle target : String)
  | unknown
deriving DecidableEq, Repr

/-- A token. -/
inductive Token where
  | directive (d : Directive)
  | documentStart
  | documentEnd
  | blockSequenceStart
  | blockMappingStart
  | blockEnd
  | flowSequenceStart
  | flowSequenceEnd
  | flowMappingStart
  | flowMappingEnd
  | blockEntry
  | flowEntry
  | key
  | value
  | alias (name : String)
  | anchor (name : String)
  | tag (handle : Option String) (suffix : String)
  | scalar (plain : Bool) (text : Text)
  /-- The place where the scanner had to give up. -/
  | broken (f : DocumentFault)
deriving DecidableEq, Repr

end Yaml

end StagedLoad

import StagedLoad.Calendar
import StagedLoad.Text

/-!
# Plain data

`Value` is the data of documents, settings, database rows and log contexts.  A map keeps its entries
in the order in which their keys came first; the type does not forbid a key to come twice,
`Entries.put` does.  A list or a map that is inside itself cannot be written out; it is kept as a
knot, which is opened level by level.
-/

namespace StagedLoad

/-- Plain data. -/
inductive Value where
  | null
  | bool (b : Bool)
  | int (n : Int)
  | float (x : Binary64)
  | text (t : Text)
  | bytes (bs : List UInt8)
  | date (d : Date)
  | moment (t : Moment)
  | list (xs : List Value)
  | map (entries : List (Value × Value))
  /-- A list or a map that may be inside itself: the one with the number among cells that hold each
  other.  Inside of a cell, a knot without cells stands for the cell with its number. -/
  | knot (cells : List Value) (n : Nat)
deriving Inhabited

namespace Value

/-- What a member of a cell stands for outside of the cells. -/
def tied (cells : List Value) : Value → Value
  | knot [] n => knot cells n
  | v => v

/-- The value with its outermost list or map laid open. -/
def opened : Value → Value
  | knot cells n =>
    match cells[n]? with
    | some (list xs) => list (xs.map (tied cells))
    | some (map es) => map (es.map fun (k, v) => (k, tied cells v))
    | some v => v
    | none => knot cells n
  | v => v

/-- Whether the value counts as true: zero, and what is empty, counts as false. -/
def truth : Value → Bool
  | null => false
  | bool b => b
  | int n => n != 0
  | float x => !x.isZero
  | text t => !t.isEmpty
  | bytes bs => !bs.isEmpty
  | date _ => true
  | moment _ => true
  | list xs => !xs.isEmpty
  | map es => !es.isEmpty
  | knot cells n =>
    match cells[n]? with
    | some (list xs) => !xs.isEmpty
    | some (map es) => !es.isEmpty
    | _ => true

/-- The integer that a truth value, an integer or a floating-point number is equal to. -/
def asInteger? : Value → Option Int
  | bool b => some (if b then 1 else 0)
  | int n => some n
  | float x => x.toInt?
  | _ => none

/-- Equality of scalars: numbers of all kinds are compared as numbers, truth values among them, and
moments as points in time; what stands for no number is told apart by its bits.  Lists and maps are
equal to nothing here. -/
def same : Value → Value → Bool
  | null, null => true
  | text s, text t => s == t
  | bytes s, bytes t => s == t
  | date s, date t => s == t
  | moment s, moment t => s.equals t
  | float x, float y => x.equals y || (x.isNaN && x == y)
  | x, y =>
    match x.asInteger?, y.asInteger? with
    | some m, some n => m == n
    | _, _ => false

end Value

/-- The entries of a map, in order. -/
abbrev Entries := List (Value × Value)

namespace Entries

/-- The value of the first entry with the key. -/
def get? (k : Value) : Entries → Option Value
  | [] => none
  | (k', v) :: es => if k'.same k then some v else get? k es

/-- Whether there is an entry with the key. -/
def has (k : Value) (es : Entries) : Bool := (get? k es).isSome

/-- Gives the key a value: an entry with the key keeps its place and its key, otherwise a new entry
comes last. -/
def put (k v : Value) : Entries → Entries
  | [] => [(k, v)]
  | (k', v') :: es => if k'.same k then (k', v) :: es else (k', v') :: put k v es

/-- The entries without the first one with the key. -/
def erase (k : Value) : Entries → Entries
  | [] => []
  | (k', v) :: es => if k'.same k then es else (k', v) :: erase k es

/-- The keys in order. -/
def keys (es : Entries) : List Value := es.map (·.1)

/-- The value of a text key. -/
def text? (k : Text) (es : Entries) : Option Value := get? (.text k) es

/-- Something new is put behind all else. -/
theorem put_of_absent {k v : Value} {es : Entries} (h : ∀ e ∈ es, e.1.same k = false) :
    put k v es = es ++ [(k, v)] := by
  induction es with
  | nil => rfl
  | cons e es ih =>
    obtain ⟨he, hes⟩ := List.forall_mem_cons.mp h
    rw [put, he, ih hes]
    rfl

/-- No key is the same as one before it. -/
def AreApart (es : Entries) : Prop := es.Pairwise fun e e' => e.1.same e'.1 = false

/-- Entries whose keys are all different are put behind each other. -/
theorem foldl_put {es new : Entries} (h : AreApart (es ++ new)) :
    new.foldl (fun es e => put e.1 e.2 es) es = es ++ new := by
  induction new generalizing es with
  | nil => exact (List.append_nil es).symm
  | cons e new ih =>
    have habsent : ∀ e' ∈ es, e'.1.same e.1 = false := fun e' he' =>
      (List.pairwise_append.mp h).2.2 e' he' e List.mem_cons_self
    have hmoved : es ++ e :: new = es ++ [e] ++ new := by simp
    rw [hmoved] at h ⊢
    rw [List.foldl_cons, put_of_absent habsent, ih h]

end Entries

end StagedLoad

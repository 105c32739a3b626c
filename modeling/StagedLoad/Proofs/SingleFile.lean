import StagedLoad.Proofs.LoadFailure

/-!
# Settings of one file

A file that imports nothing and has no environments is read alone: the variables are filled into its
text, and the settings are checked on the map that the text is read as.  If it is read as nothing,
no settings are loaded.

* `Surroundings.loadSettings_of_parse`, `Surroundings.loads_iff_of_parse` : the settings of one
  file.
* `Surroundings.loadSettings_of_parse_error` : a text that is no document has none.
-/

namespace StagedLoad

open Yaml

namespace Reading

variable {α β : Type} {r : Reading α} {k : α → Reading β} {a : α} {n m : Nat}

/-- The reading fails, whatever was logged before. -/
def Fails (r : Reading α) (first : Nat) : Prop := ∀ j, ∃ e p, r ⟨j, first⟩ = (.error e, p)

/-- What fails behind a success fails as a whole. -/
theorem Yields.fails (hr : Yields r n a m) (hk : Fails (k a) m) : Fails (r >>= k) n := by
  intro j
  obtain ⟨j', hr⟩ := hr j
  obtain ⟨e, p, hk⟩ := hk j'
  refine ⟨e, p, ?_⟩
  rw [bind_apply, hr]
  exact hk

/-- A failure is not made up for by what follows. -/
theorem Fails.of_error (e : ReadFailure) (k : α → Reading β) (n : Nat) :
    Fails ((liftM (.error e : Except ReadFailure α) : Reading α) >>= k) n :=
  fun j => ⟨e, ⟨j, n⟩, rfl⟩

end Reading

namespace Surroundings

variable {w : Surroundings} {path text filled : Text} {f : DocumentFault} {es : Entries}

/-- The path leads to a file with the text. -/
def HoldsText (w : Surroundings) (path text : Text) : Prop :=
  w.files.contains path = true ∧
    ∃ bytes, w.files.opened? path = some (.file bytes) ∧ utf8Text? bytes = some text

/-- A document that cannot be read is not loaded. -/
theorem loadSettings_of_parse_error (hfile : w.HoldsText path text)
    (hfilled : substitute w.vars (withLineFeeds text) = .ok filled)
    (hparse : Document.parse 0 filled = .error f) (j : Journal) (s : OutputSettings) :
    (w.loadSettings path j).1 ≠ .ok s := by
  obtain ⟨hthere, bytes, hopened, hbytes⟩ := hfile
  have hread : Reading.Fails (w.readConfig path) 0 := by
    rw [readConfig, readFile]
    refine (Reading.Yields.say ?_ _ _ 0).fails ?_
    · exact List.forall_mem_cons.mpr ⟨FilePath.hasLongInteger_value ⟨path, false⟩,
        List.forall_mem_cons.mpr ⟨Value.hasLongInteger_ofText? _, List.forall_mem_nil _⟩⟩
    simp only [hthere, Bool.not_true, Bool.false_eq_true, if_false]
    refine (Reading.Yields.readText hopened hbytes 0).fails ((Reading.Yields.fill hfilled _ 0).fails
      ((Reading.Yields.nextDocument 0).fails ?_))
    rw [hparse]
    exact Reading.Fails.of_error _ _ _
  obtain ⟨e, p, hrun⟩ := hread j
  have hfailed : (w.readConfig path).runWith j = (.error e, p.journal) := by
    show ((w.readConfig path ⟨j, 0⟩).1, (w.readConfig path ⟨j, 0⟩).2.journal) = _
    rw [hrun]
  rw [loadSettings, hfailed]
  nofun

/-- A map without imports and environments is what the settings are checked of. -/
theorem loadSettings_of_parse (hfile : w.HoldsText path text)
    (hfilled : substitute w.vars (withLineFeeds text) = .ok filled)
    (hparse : Document.parse 0 filled = .ok (some (.map es)))
    (himports : Entries.text? "imports" es = none)
    (henvironments : Entries.text? "environments" es = none) (j : Journal) :
    (w.loadSettings path j).1 = match checkOutput (.map es) with
      | .ok s => .ok s
      | .faulty issues => .error (.invalid path issues) := by
  obtain ⟨hthere, bytes, hopened, hbytes⟩ := hfile
  obtain ⟨place, hplace, hlookup⟩ := FileTree.place_of_opened? hopened
  have htop : topData (some (.map es)) = .ok (.map es) := by
    cases es <;> rfl
  have hmembers : importList (Entries.text? "imports" es) = .ok [] := by
    rw [himports]
    rfl
  have hblank : es.environments = .map [] := by
    rw [Entries.environments, henvironments]
    rfl
  have hfound : w.Found [] 0 ⟨path, false⟩ (.file es []) :=
    ⟨place, [], ⟨hthere, hplace, bytes, text, filled, some (.map es), hlookup, hbytes, hfilled,
      hparse, htop⟩, List.not_mem_nil, hmembers, trivial⟩
  have hblocks : (Source.file es []).hasBlocks w.environment = true := by
    rw [Source.hasBlocks, Source.haveBlocks, Bool.and_true, Entries.hasBlocks, hblank]
    cases w.environment.filter fun name => !name.isEmpty <;> rfl
  have heffective : (Source.file es []).effective w.environment = es := by
    have hchosen : es.chosen w.environment = [] := by
      rw [Entries.chosen, hblank]
      cases w.environment.filter fun name => !name.isEmpty <;> rfl
    rw [Source.effective, Source.overImports, Entries.own,
      Entries.erase_of_text?_eq_none himports, Entries.erase_of_text?_eq_none henvironments,
      hchosen, Entries.deepMerge]
  have hyields := Reading.Yields.readFile hfound (hfound.isSound hblocks) List.nodup_nil
    (List.nil_subset _) (Nat.le_refl _)
  rw [heffective] at hyields
  obtain ⟨j', hrun⟩ := hyields j
  have hread : (w.readConfig path).runWith j = (.ok (.map es), j') := by
    show ((w.readConfig path ⟨j, 0⟩).1, (w.readConfig path ⟨j, 0⟩).2.journal) = _
    rw [readConfig, hrun]
  rw [loadSettings, hread]
  dsimp only
  cases checkOutput (.map es) <;> rfl

/-- **A file without imports and environments is loaded exactly if its data pass the check.** -/
theorem loads_iff_of_parse (hfile : w.HoldsText path text)
    (hfilled : substitute w.vars (withLineFeeds text) = .ok filled)
    (hparse : Document.parse 0 filled = .ok (some (.map es)))
    (himports : Entries.text? "imports" es = none)
    (henvironments : Entries.text? "environments" es = none) (j : Journal) {s : OutputSettings} :
    (w.loadSettings path j).1 = .ok s ↔ checkOutput (.map es) = .ok s := by
  rw [loadSettings_of_parse hfile hfilled hparse himports henvironments]
  cases checkOutput (.map es) <;> simp

end Surroundings

end StagedLoad

import Mathlib.Logic.Relation
import StagedLoad.Proofs.Reading

/-!
# Failures of loading

Settings that cannot be loaded are reported: a file is not there, or something is wrong with the
configuration, and the file that was to be loaded is named.  Nothing else comes out, unless a file
imports itself in the end, a path leads to a directory, or a document has another shape than a
configuration: data that are no map, imports that are no paths, or environments that are no maps of
maps.  Of these nothing is checked beforehand.

* `Reading.EndsIn` : how readings end, by their parts.
* `Surroundings.load_fails_as_documented` : which failures come out.
-/

namespace StagedLoad

variable {α β : Type}

/-! ## Failures -/

/-- Whether the failure to read a configuration is one that loading knows of. -/
def ReadFailure.isForeseen : ReadFailure → Bool
  | fileMissing _ => true
  | importMissing _ => true
  | notUtf8 => true
  | variableMissing _ => true
  | longInteger => true
  | document f => f == .malformed || f == .noSuchValue
  | _ => false

/-- The failure is that a file is not there, or tells what is wrong with the configuration in the
file. -/
inductive ConfigFailure.IsDocumented (file : Text) : ConfigFailure → Prop
  | fileMissing (path : Text) : IsDocumented file (.unread (.fileMissing path))
  | importMissing (path : Text) : IsDocumented file (.unread (.importMissing path))
  | badDocument : IsDocumented file (.badDocument file)
  | badText : IsDocumented file (.badText file)
  | unset (name : Text) : IsDocumented file (.unset file name)
  | invalid (issues : List Issue) : IsDocumented file (.invalid file issues)

/-- **Foreseen failures are reported as it is documented**, and no others. -/
theorem ReadFailure.isDocumented_report {file : Text} {f : ReadFailure} :
    (f.report file).IsDocumented file ↔ f.isForeseen = true := by
  constructor
  · intro h
    cases f with
    | document f => cases f <;> first | rfl | cases h
    | directory | unusable | notMap | cycle | endless => cases h
    | _ => rfl
  · intro h
    cases f with
    | fileMissing path => exact .fileMissing path
    | importMissing path => exact .importMissing path
    | notUtf8 => exact .badText
    | variableMissing name => exact .unset name
    | longInteger => exact .badText
    | document f =>
      cases f with
      | malformed => exact .badDocument
      | noSuchValue => exact .badText
      | _ => cases h
    | _ => cases h

/-! ## How readings end -/

namespace Reading

/-- The reading ends with an answer of this kind, or with a failure that is foreseen. -/
def EndsIn (r : Reading α) (Q : α → Prop) : Prop :=
  ∀ p, match (r p).1 with
    | .ok a => Q a
    | .error f => f.isForeseen = true

namespace EndsIn

variable {P : α → Prop} {Q : β → Prop} {r : Reading α} {k : α → Reading β}

/-- How a reading ends does not depend on what was logged before. -/
theorem runWith (hr : r.EndsIn P) (j : Journal) :
    match (r.runWith j).1 with
    | .ok a => P a
    | .error f => f.isForeseen = true :=
  hr { journal := j }

/-- What follows may rely on the answer of what came before. -/
theorem bind (hr : r.EndsIn P) (hk : ∀ a, P a → (k a).EndsIn Q) : (r >>= k).EndsIn Q := by
  intro p
  have hr := hr p
  rw [bind_apply]
  rcases hrun : r p with ⟨e | a, p'⟩
  · rw [hrun] at hr
    exact hr
  · rw [hrun] at hr
    exact hk a hr p'

theorem pure {a : α} (h : P a) : EndsIn (Pure.pure a) P := fun _ => h

theorem throw {f : ReadFailure} (h : f.isForeseen = true) : EndsIn (throw f : Reading α) P :=
  fun _ => h

/-- What can be told without reading. -/
theorem lift {e : Except ReadFailure α} (hok : ∀ a, e = .ok a → P a)
    (herror : ∀ f, e = .error f → f.isForeseen = true) : EndsIn (liftM e : Reading α) P := by
  intro p
  cases e with
  | ok a => exact hok a rfl
  | error f => exact herror f rfl

/-- What is known to succeed ends with its answer. -/
theorem lift_ok {e : Except ReadFailure α} {a : α} (h : e = .ok a) :
    EndsIn (liftM e : Reading α) (· = a) := by
  subst h
  exact pure rfl

theorem say (severity : Severity) (message : Text) (context : Context) :
    EndsIn (say severity message context) fun _ => True := by
  unfold Reading.say
  refine bind (P := fun _ => True) (fun _ => trivial) ?_
  intro progress _
  split
  · exact bind (P := fun _ => True) (throw rfl) fun _ _ _ => trivial
  · exact fun _ => trivial

theorem nextDocument : EndsIn nextDocument fun _ => True := fun _ => trivial

/-- Filling in ends with the text, or with a variable that is not set. -/
theorem fill (vars : Variables) (path : Value) (text : Text) :
    EndsIn (fill vars path text) fun filled => substitute vars text = .ok filled := by
  unfold Reading.fill
  cases h : substitute vars text with
  | ok filled => exact pure rfl
  | error name => exact (say _ _ _).bind fun _ _ => throw rfl

/-- A path that leads to no directory is read as a text, or with a failure that is foreseen. -/
theorem readText {t : FileTree} {path : Text} (hpath : t.opened? path ≠ some .directory) :
    EndsIn (readText t path) fun text => ∃ bytes raw,
      t.opened? path = some (.file bytes) ∧ utf8Text? bytes = some raw ∧
        text = withLineFeeds raw := by
  unfold Reading.readText
  cases hopened : t.opened? path with
  | none => exact throw rfl
  | some entry =>
    cases entry with
    | directory => exact absurd hopened hpath
    | file bytes =>
      cases hraw : utf8Text? bytes with
      | none => simp only [hraw]; exact throw rfl
      | some raw => simp only [hraw]; exact pure ⟨bytes, raw, rfl, hraw, rfl⟩

end EndsIn

end Reading

/-! ## Shapes of documents -/

/-- The path that is to be imported, if it is one. -/
def Value.filePath? : Value → Option FilePath
  | .text t => some ⟨t, false⟩
  | .bytes bs => some (FilePath.ofBytes bs)
  | _ => none

/-- Whether what is to be imported is a path that can be joined to the directory. -/
def Value.isPathFrom (directory : FilePath) (member : Value) : Bool :=
  member.filePath?.any fun p => isAbsolute p.text || p.inBytes == directory.inBytes

/-- Whether the imports are paths that can be joined to the directory. -/
def Entries.hasPaths (directory : FilePath) (es : Entries) : Bool :=
  match importList (text? "imports" es) with
  | .ok members => members.all (Value.isPathFrom directory)
  | .error _ => false

/-- Whether the environments are a map, and the chosen one is a map without environments of its
own. -/
def Entries.offers (environment : Option Text) (es : Entries) : Bool :=
  match environment.filter fun name => !name.isEmpty with
  | none => true
  | some name =>
    match es.environments with
    | .map blocks =>
      match text? name blocks with
      | none => true
      | some (.map block) => !has (.text "environments") block
      | some _ => false
    | _ => false

/-- Whether the document is a configuration, as far as reading looks at it, or has a fault that is
foreseen. -/
def isConfiguration (environment : Option Text) (directory : FilePath) :
    Except DocumentFault (Option Value) → Bool
  | .error f => (ReadFailure.document f).isForeseen
  | .ok document =>
    match topData document with
    | .ok (.map es) => Entries.hasPaths directory es && Entries.offers environment es
    | _ => false

/-- What a configuration consists of. -/
theorem isConfiguration_ok {environment : Option Text} {directory : FilePath}
    {document : Option Value} (h : isConfiguration environment directory (.ok document) = true) :
    ∃ (es : Entries) (members : List Value), topData document = .ok (.map es) ∧
      importList (Entries.text? "imports" es) = .ok members ∧
      (∀ m ∈ members, m.isPathFrom directory = true) ∧ es.offers environment = true := by
  unfold isConfiguration at h
  dsimp only at h
  split at h
  · next es htop =>
    obtain ⟨hpaths, hoffers⟩ := (Bool.and_eq_true _ _).mp h
    unfold Entries.hasPaths at hpaths
    split at hpaths
    · next members hmembers =>
      exact ⟨es, members, htop, hmembers, List.all_eq_true.mp hpaths, hoffers⟩
    · cases hpaths
  · cases h

/-- A path that can be joined to the directory leads to a file, or nowhere. -/
theorem isForeseen_of_importPath {t : FileTree} {directory : FilePath} {member : Value}
    {f : ReadFailure} (hmember : member.isPathFrom directory = true)
    (h : importPath t directory member = .error f) : f.isForeseen = true := by
  obtain ⟨p, hp⟩ := Option.isSome_iff_exists.mp (Option.isSome_of_any hmember)
  have hfits : (!isAbsolute p.text && p.inBytes != directory.inBytes) = false := by
    rw [Value.isPathFrom, hp, Option.any_some] at hmember
    cases hroot : isAbsolute p.text
    · rw [hroot, Bool.false_or] at hmember
      rw [eq_of_beq hmember, bne_self_eq_false, Bool.and_false]
    · rfl
  have himport : importPath t directory member =
      if !isAbsolute p.text && p.inBytes != directory.inBytes then .error .unusable
      else
        let path := { p with text := joinPath directory.text p.text }
        if t.contains path.text then .ok path else .error (.importMissing path.value.display) := by
    cases member <;> cases hp <;> rfl
  rw [himport, hfits] at h
  split at h
  · contradiction
  · dsimp only at h
    split at h
    · cases h
    · cases h
      rfl

/-! ## Data -/

/-- The data of a file with its imports and for an environment: a map with distinct keys and without
environments. -/
def IsEffective (v : Value) : Prop :=
  ∃ es, v = .map es ∧ Entries.isRegular es = true ∧ Entries.text? "environments" es = none

namespace Reading.EndsIn

/-- The chosen environment comes over the data. -/
theorem applyEnvironment {w : Surroundings} {es data : Entries}
    (hregular : Entries.isRegular es = true) (hoffers : es.offers w.environment = true)
    (hdata : Entries.isRegular data = true)
    (hsame : Entries.text? "environments" data = Entries.text? "environments" es) :
    EndsIn (w.applyEnvironment (.map data)) IsEffective := by
  have hrest : Entries.isRegular (Entries.erase (.text "environments") data) = true :=
    Entries.isRegular_erase hdata
  have hplain : Entries.text? "environments" (Entries.erase (.text "environments") data) = none :=
    Entries.text?_erase_self hdata
  unfold Surroundings.applyEnvironment
  rw [Value.takeOut_map, hsame]
  cases hname : w.environment.filter fun name => !name.isEmpty with
  | none => exact pure ⟨_, rfl, hrest, hplain⟩
  | some name =>
    have hvalue := Entries.isRegular_environments hregular
    rw [Entries.offers, hname] at hoffers
    unfold Entries.environments at hvalue hoffers
    dsimp only at hoffers ⊢
    generalize ((Entries.text? "environments" es).filter Value.truth).getD (.map []) =
      environments at hvalue hoffers ⊢
    cases environments with
    | map blocks =>
      refine (lift_ok (a := (Entries.keys blocks, Entries.text? name blocks)) rfl).bind ?_
      rintro _ rfl
      dsimp only at hoffers ⊢
      cases hchosen : Entries.text? name blocks with
      | none => exact (say _ _ _).bind fun _ _ => pure ⟨_, rfl, hrest, hplain⟩
      | some block =>
        rw [hchosen] at hoffers
        cases block with
        | map upper =>
          have hupper : Entries.isRegular upper = true := Entries.isRegular_of_get? hvalue hchosen
          have hnone : Entries.text? "environments" upper = none := by
            have hmissing := (Bool.not_eq_true' _).mp hoffers
            exact Option.not_isSome_iff_eq_none.mp (Bool.eq_false_iff.mp hmissing)
          have hlayered := layered_of_plain (Entries.meetsKnot_of_isRegular hrest hupper)
          refine (say _ _ _).bind fun _ _ => lift (fun v hv => ?_) (fun f hf => ?_)
          · obtain rfl := Except.ok.inj (hlayered.symm.trans hv)
            refine ⟨_, rfl, Entries.isRegular_deepMerge hrest hupper, ?_⟩
            rw [Entries.text?_deepMerge hupper, hnone, hplain]
          · cases hlayered.symm.trans hf
        | _ => cases hoffers
    | _ => cases hoffers

/-- Imported data come below those of the file. -/
theorem readImports {w : Surroundings} {read : FilePath → Reading Value} {directory : FilePath}
    {members : List Value} {data : Entries}
    (hmembers : ∀ m ∈ members, m.isPathFrom directory = true)
    (hread : ∀ m ∈ members, ∀ q, importPath w.files directory m = .ok q →
      (read q).EndsIn IsEffective)
    (hdata : Entries.isRegular data = true) :
    EndsIn (w.readImports read directory (.map data) members) fun v => ∃ merged,
      v = .map merged ∧ Entries.isRegular merged = true ∧
        Entries.text? "environments" merged = Entries.text? "environments" data := by
  induction members generalizing data with
  | nil => exact pure ⟨data, rfl, hdata, rfl⟩
  | cons member members ih =>
    obtain ⟨hmember, hmembers⟩ := List.forall_mem_cons.mp hmembers
    obtain ⟨hfirst, hread⟩ := List.forall_mem_cons.mp hread
    rw [Surroundings.readImports]
    refine (lift (P := fun q => importPath w.files directory member = .ok q)
      (fun _ h => h) (fun _ h => isForeseen_of_importPath hmember h)).bind ?_
    intro q hq
    refine (say _ _ _).bind fun _ _ => (hfirst q hq).bind ?_
    rintro _ ⟨imported, rfl, himported, hplain⟩
    have hlayered := layered_of_plain (Entries.meetsKnot_of_isRegular himported hdata)
    refine (lift_ok hlayered).bind ?_
    rintro _ rfl
    have hsame : Entries.text? "environments" (Entries.deepMerge imported data) =
        Entries.text? "environments" data := by
      rw [Entries.text?_deepMerge hdata, hplain]
      cases Entries.text? "environments" data <;> rfl
    have hrest := ih hmembers hread (Entries.isRegular_deepMerge himported hdata)
    rwa [hsame] at hrest

end Reading.EndsIn

/-! ## Imports -/

/-- A file that is opened is at the place of its path. -/
theorem FileTree.place_of_opened? {t : FileTree} {path : Text} {bytes : List UInt8}
    (h : t.opened? path = some (.file bytes)) :
    ∃ place, t.place? path = some place ∧ t.files.lookup place = some bytes := by
  obtain ⟨p, hp, h⟩ := Option.bind_eq_some_iff.mp h
  refine ⟨t.absoluteParts p, ?_, ?_⟩
  · rw [place?, hp]
    rfl
  · unfold entry? at h
    cases hlookup : t.files.lookup (t.absoluteParts p) with
    | some bytes' =>
      rw [hlookup] at h
      cases h
      rfl
    | none =>
      rw [hlookup] at h
      dsimp only at h
      split at h <;> cases h

namespace Surroundings

/-- What the file at the path is as the document with the number: nothing if it is not there, is no
text or has a variable that is not set. -/
def documentAt? (w : Surroundings) (n : Nat) (path : Text) :
    Option (Except DocumentFault (Option Value)) :=
  match w.files.opened? path with
  | some (.file bytes) => do
    let raw ← utf8Text? bytes
    let text ← (substitute w.vars (withLineFeeds raw)).toOption
    return Document.parse n text
  | _ => none

/-- The directory that the imports of a file are seen from. -/
def directoryAt (w : Surroundings) (path : FilePath) : FilePath :=
  { path with text := directoryOf (w.files.absolute path.text) }

/-- The file at the one path imports the other. -/
def Imports (w : Surroundings) (path path' : FilePath) : Prop :=
  ∃ n document es members member, w.documentAt? n path.text = some (.ok document) ∧
    topData document = .ok (.map es) ∧ importList (Entries.text? "imports" es) = .ok members ∧
      member ∈ members ∧ importPath w.files (w.directoryAt path) member = .ok path'

/-- The file at the path is needed for the one at the start. -/
def IsNeeded (w : Surroundings) (start path : FilePath) : Prop :=
  Relation.ReflTransGen w.Imports start path

/-- No file that is needed imports itself in the end. -/
def IsAcyclic (w : Surroundings) (start : FilePath) : Prop :=
  ∀ path path', w.IsNeeded start path → Relation.TransGen w.Imports path path' →
    w.files.place? path'.text ≠ w.files.place? path.text

/-- The places are those of different files, from each of which imports lead to the path. -/
structure IsAbove (w : Surroundings) (start path : FilePath) (above : List (List Text)) :
    Prop where
  nodup : above.Nodup
  files : above ⊆ w.files.files.map Prod.fst
  leads : ∀ place ∈ above, ∃ p, w.IsNeeded start p ∧ w.files.place? p.text = some place ∧
    Relation.TransGen w.Imports p path

variable {w : Surroundings} {start path path' : FilePath} {above : List (List Text)}

/-- There are at most as many places above a file as there are files. -/
theorem IsAbove.length_le (h : w.IsAbove start path above) :
    above.length ≤ w.files.files.length := by
  have hlength := (List.subperm_of_subset h.nodup h.files).length_le
  rwa [List.length_map] at hlength

/-- What the file imports has one file more above it. -/
theorem IsAbove.cons {place : List Text} {bytes : List UInt8} (hacyclic : w.IsAcyclic start)
    (hneeded : w.IsNeeded start path) (h : w.IsAbove start path above)
    (hplace : w.files.place? path.text = some place)
    (hfile : w.files.files.lookup place = some bytes) (himport : w.Imports path path') :
    w.IsAbove start path' (place :: above) := by
  refine ⟨List.nodup_cons.mpr ⟨?_, h.nodup⟩, ?_, ?_⟩
  · intro hmem
    obtain ⟨p, hp, hsame, hleads⟩ := h.leads place hmem
    exact hacyclic p path hp hleads (hplace.trans hsame.symm)
  · exact List.cons_subset.mpr ⟨FileTree.mem_of_lookup hfile, h.files⟩
  · refine List.forall_mem_cons.mpr ⟨⟨path, hneeded, hplace, .single himport⟩, ?_⟩
    intro place hmem
    obtain ⟨p, hp, hsame, hleads⟩ := h.leads place hmem
    exact ⟨p, hp, hsame, hleads.tail himport⟩

/-- The document of a file that can be read. -/
theorem documentAt?_eq {bytes : List UInt8} {raw filled : Text}
    (hopened : w.files.opened? path.text = some (.file bytes)) (hraw : utf8Text? bytes = some raw)
    (hfilled : substitute w.vars (withLineFeeds raw) = .ok filled) (n : Nat) :
    w.documentAt? n path.text = some (Document.parse n filled) := by
  rw [documentAt?, hopened]
  simp [hraw, hfilled, Except.toOption]

/-- The surroundings hold configurations for the path: no file that is needed imports itself in the
end, none is a directory, and their documents have the shape of configurations. -/
structure HoldConfigurations (w : Surroundings) (start : FilePath) : Prop where
  acyclic : w.IsAcyclic start
  files : ∀ path, w.IsNeeded start path → w.files.opened? path.text ≠ some .directory
  shapes : ∀ path, w.IsNeeded start path → ∀ n outcome, w.documentAt? n path.text = some outcome →
    isConfiguration w.environment (w.directoryAt path) outcome = true

/-- **Reading a file ends in data or in a foreseen failure**, by induction on how many files there
can be below it. -/
theorem HoldConfigurations.readFile (h : w.HoldConfigurations start) {fuel : Nat}
    (hneeded : w.IsNeeded start path) (habove : w.IsAbove start path above)
    (hfuel : w.files.files.length + 1 ≤ fuel + above.length) :
    (w.readFile fuel path).EndsIn IsEffective := by
  induction fuel generalizing path above with
  | zero =>
    have hlength := habove.length_le
    omega
  | succ fuel ih =>
    rw [Surroundings.readFile]
    refine (Reading.EndsIn.say _ _ _).bind fun _ _ => ?_
    split
    · exact (Reading.EndsIn.throw (P := fun _ => False) rfl).bind fun _ hnone => hnone.elim
    refine (Reading.EndsIn.readText (h.files path hneeded)).bind ?_
    rintro _ ⟨bytes, raw, hopened, hraw, rfl⟩
    refine (Reading.EndsIn.fill _ _ _).bind fun filled hfilled => ?_
    refine Reading.EndsIn.nextDocument.bind fun n _ => ?_
    have hdocument := documentAt?_eq hopened hraw hfilled n
    have hshape := h.shapes path hneeded n _ hdocument
    cases hparse : Document.parse n filled with
    | error f =>
      rw [hparse] at hshape
      refine (Reading.EndsIn.lift (P := fun _ => False) nofun ?_).bind fun _ hnone => hnone.elim
      intro f' hf
      cases hf
      exact hshape
    | ok document =>
      rw [hparse] at hshape hdocument
      obtain ⟨es, members, htop, hmembers, hpaths, hoffers⟩ := isConfiguration_ok hshape
      have hregular := isRegular_of_topData hparse htop
      refine (Reading.EndsIn.lift_ok (a := document) rfl).bind ?_
      rintro _ rfl
      refine (Reading.EndsIn.lift_ok htop).bind ?_
      rintro _ rfl
      rw [Value.takeOut_map]
      refine (Reading.EndsIn.lift_ok hmembers).bind ?_
      rintro _ rfl
      refine (Reading.EndsIn.readImports hpaths ?_ (Entries.isRegular_erase hregular)).bind ?_
      · intro member hmember path' hpath'
        have himport : w.Imports path path' :=
          ⟨n, _, es, _, member, hdocument, htop, hmembers, hmember, hpath'⟩
        obtain ⟨place, hplace, hfile⟩ := FileTree.place_of_opened? hopened
        refine ih (hneeded.tail himport)
          (habove.cons h.acyclic hneeded hplace hfile himport) ?_
        rw [List.length_cons]
        omega
      · rintro _ ⟨merged, rfl, hmerged, hsame⟩
        exact Reading.EndsIn.applyEnvironment hregular hoffers hmerged
          (hsame.trans (Entries.text?_erase (by decide) es))

/-- **Loading fails as it is documented**, if the surroundings hold configurations. -/
theorem load_fails_as_documented {w : Surroundings} {path : Text}
    (h : w.HoldConfigurations ⟨path, false⟩) (j : Journal) {f : ConfigFailure}
    (hf : (w.loadSettings path j).1 = .error f) : f.IsDocumented path := by
  have habove : w.IsAbove ⟨path, false⟩ ⟨path, false⟩ [] :=
    ⟨List.nodup_nil, List.nil_subset _, List.forall_mem_nil _⟩
  have hends : (w.readConfig path).EndsIn IsEffective := h.readFile .refl habove (Nat.le_refl _)
  have hread := hends.runWith j
  unfold loadSettings at hf
  split at hf
  · next failure j' hrun =>
    rw [hrun] at hread
    obtain rfl := Except.error.inj hf
    exact ReadFailure.isDocumented_report.mpr hread
  · split at hf
    · cases hf
    · obtain rfl := Except.error.inj hf
      exact .invalid _

end Surroundings

/-! ## Documents with one entry -/

section

open Yaml

/-- A map of one text under another has the same value in every document. -/
theorem Yaml.Graph.value_entry (k t : Text) (n : Nat) :
    Graph.value n ⟨#[.mapping .map [(1, 2)], .scalar .text k, .scalar .text t], 0⟩ =
      .ok (.map [(.text k, .text t)]) := by
  let start : Build := {
    nodes := #[.mapping .map [(1, 2)], .scalar .text k, .scalar .text t]
    made := Array.replicate 3 none
    document := n }
  let begun : Build := { start with
    made := #[some (.knot [] 0), none, none], cells := #[.list []], later := [(0, 0)] }
  let done : Build := { start with
    made := #[some (.knot [] 0), some (.text k), some (.text t)]
    cells := #[.map [(.text k, .text t)]] }
  have hmake : Build.make 0 start = .ok (.knot [] 0, begun) := rfl
  have hfill : Build.fillAll 4 begun = .ok ((), done) := rfl
  have hvalue : Cell.value done.cells (.knot [] 0) = .map [(.text k, .text t)] := rfl
  have hrun : Graph.value n ⟨start.nodes, 0⟩ =
      ((do
        let v ← Build.make 0
        Build.fillAll 4
        return Cell.value (← get).cells v : Build.Builder Value) start).map Prod.fst := rfl
  have hget : (get : Build.Builder Build) done = .ok (done, done) := rfl
  rw [hrun, bind_ok hmake, bind_ok hfill, bind_ok hget, hvalue]
  rfl

/-- A document that is malformed is so whatever its number is. -/
theorem Document.parse_of_malformed {text : Text}
    (hgraph : Graph.ofTokens? (tokensOf text.shown) = .error .malformed) (n : Nat) :
    parse n text = .error .malformed := by
  unfold parse
  rw [hgraph]
  split <;> rfl

/-- A document with one entry, whatever its number is. -/
theorem Document.parse_entry {text k t : Text}
    (hchars : text.all (Symbol.isChar isDocumentChar) = true)
    (hgraph : Graph.ofTokens? (tokensOf text.shown) =
      .ok (some ⟨#[.mapping .map [(1, 2)], .scalar .text k, .scalar .text t], 0⟩)) (n : Nat) :
    parse n text = .ok (some (.map [(.text k, .text t)])) := by
  rw [parse, if_pos hchars, hgraph]
  simp [bind, Except.bind, Graph.value_entry, pure, Except.pure]

end

/-! ## Short chains of imports -/

namespace Surroundings

variable {w : Surroundings} {start imported path : FilePath}

theorem IsNeeded.eq_of_no_imports (hnone : ∀ p, ¬ w.Imports start p)
    (h : w.IsNeeded start path) : path = start :=
  (Relation.reflTransGen_iff_eq hnone).mp h

/-- Where nothing is imported nothing imports itself. -/
theorem isAcyclic_of_no_imports (hnone : ∀ p, ¬ w.Imports start p) : w.IsAcyclic start := by
  intro path path' hpath hleads
  rw [hpath.eq_of_no_imports hnone] at hleads
  obtain ⟨next, hstep, _⟩ := Relation.TransGen.head'_iff.mp hleads
  exact absurd hstep (hnone next)

/-- A file that imports one file needs that one, if that one imports none. -/
theorem IsNeeded.eq_or_eq (hfirst : ∀ p, w.Imports start p → p = imported)
    (hlast : ∀ p, ¬ w.Imports imported p) (h : w.IsNeeded start path) :
    path = start ∨ path = imported := by
  rcases Relation.ReflTransGen.cases_head h with rfl | ⟨next, hstep, hrest⟩
  · exact .inl rfl
  · rw [hfirst next hstep] at hrest
    exact .inr (IsNeeded.eq_of_no_imports hlast hrest)

/-- Two files that do not import each other have no cycle. -/
theorem isAcyclic_of_one_import (hfirst : ∀ p, w.Imports start p → p = imported)
    (hlast : ∀ p, ¬ w.Imports imported p)
    (hapart : w.files.place? imported.text ≠ w.files.place? start.text) :
    w.IsAcyclic start := by
  intro path path' hpath hleads
  obtain ⟨next, hstep, hrest⟩ := Relation.TransGen.head'_iff.mp hleads
  rcases hpath.eq_or_eq hfirst hlast with rfl | rfl
  · rw [hfirst next hstep] at hrest
    rwa [IsNeeded.eq_of_no_imports hlast hrest]
  · exact absurd hstep (hlast next)

/-- A malformed import is reported for the file that was to be loaded. -/
theorem malformed_import_is_reported :
    let main : String := "imports: base\n"
    let base : String := "["
    let w : Surroundings := {
      files := {
        root := ["etc"]
        files := [(["etc", "main"], main.toUTF8.toList), (["etc", "base"], base.toUTF8.toList)] } }
    w.HoldConfigurations ⟨"main", false⟩ ∧
      (w.loadSettings "main" {}).1 = .error (.badDocument "main") ∧
      ConfigFailure.IsDocumented "main" (.badDocument "main") := by
  intro main base w
  let start : FilePath := ⟨"main", false⟩
  let imported : FilePath := ⟨"/etc/base", false⟩
  have hmain : w.files.opened? start.text = some (.file main.toUTF8.toList) := by
    have hplace : w.files.place? start.text = some [("etc" : Text), "main"] := by decide +kernel
    exact FileTree.opened?_of_place hplace (by decide +kernel)
  have hbase : w.files.opened? imported.text = some (.file base.toUTF8.toList) := by
    have hplace : w.files.place? imported.text = some [("etc" : Text), "base"] := by decide +kernel
    exact FileTree.opened?_of_place hplace (by decide +kernel)
  have hentry (n : Nat) : w.documentAt? n start.text =
      some (.ok (some (.map [(.text "imports", .text "base")]))) := by
    have hraw : utf8Text? main.toUTF8.toList = some (main : Text) := by decide +kernel
    have hfilled : substitute w.vars (withLineFeeds main) = .ok (main : Text) := by decide +kernel
    rw [documentAt?_eq hmain hraw hfilled]
    exact congrArg some (Document.parse_entry (by decide +kernel) (by decide +kernel) n)
  have hfault (n : Nat) : w.documentAt? n imported.text = some (.error .malformed) := by
    have hraw : utf8Text? base.toUTF8.toList = some (base : Text) := by decide +kernel
    have hfilled : substitute w.vars (withLineFeeds base) = .ok (base : Text) := by decide +kernel
    rw [documentAt?_eq hbase hraw hfilled]
    exact congrArg some (Document.parse_of_malformed (by decide +kernel) n)
  have hfirst : ∀ p, w.Imports start p → p = imported := by
    rintro path ⟨n, document, es, members, member, hdocument, htop, hmembers, hmember, hpath⟩
    rw [hentry n] at hdocument
    cases hdocument
    cases htop
    cases hmembers
    obtain rfl := List.mem_singleton.mp hmember
    have himported : importPath w.files (w.directoryAt start) (.text "base") = .ok imported := by
      decide +kernel
    exact Except.ok.inj (hpath.symm.trans himported)
  have hlast : ∀ p, ¬ w.Imports imported p := by
    rintro path ⟨n, document, _, _, _, hdocument, _⟩
    rw [hfault n] at hdocument
    cases hdocument
  have hholds : w.HoldConfigurations start := by
    refine ⟨isAcyclic_of_one_import hfirst hlast (by decide +kernel), ?_, ?_⟩
    · intro path hpath
      rcases hpath.eq_or_eq hfirst hlast with rfl | rfl
      · exact hmain ▸ nofun
      · exact hbase ▸ nofun
    · intro path hpath n outcome houtcome
      rcases hpath.eq_or_eq hfirst hlast with rfl | rfl
      · obtain rfl := Option.some.inj ((hentry n).symm.trans houtcome)
        decide +kernel
      · obtain rfl := Option.some.inj ((hfault n).symm.trans houtcome)
        rfl
  have hfails : (w.loadSettings "main" {}).1 = .error (.badDocument "main") := by decide +kernel
  exact ⟨hholds, hfails, load_fails_as_documented hholds {} hfails⟩

/-- Environments that are a text break the contract: the failure is none of those that are
documented. -/
theorem text_of_environments_breaks_contract :
    ¬ ∀ (w : Surroundings) (path : Text) (j : Journal) (f : ConfigFailure),
      w.IsAcyclic ⟨path, false⟩ →
      (∀ p, w.IsNeeded ⟨path, false⟩ p → w.files.opened? p.text ≠ some .directory) →
      (w.loadSettings path j).1 = .error f → f.IsDocumented path := by
  intro hall
  let main : String := "environments: a\n"
  let w : Surroundings := {
    files := { root := ["etc"], files := [(["etc", "main"], main.toUTF8.toList)] }
    environment := some "p" }
  let start : FilePath := ⟨"main", false⟩
  have hmain : w.files.opened? start.text = some (.file main.toUTF8.toList) := by
    have hplace : w.files.place? start.text = some [("etc" : Text), "main"] := by decide +kernel
    exact FileTree.opened?_of_place hplace (by decide +kernel)
  have hentry (n : Nat) : w.documentAt? n start.text =
      some (.ok (some (.map [(.text "environments", .text "a")]))) := by
    have hraw : utf8Text? main.toUTF8.toList = some (main : Text) := by decide +kernel
    have hfilled : substitute w.vars (withLineFeeds main) = .ok (main : Text) := by decide +kernel
    rw [documentAt?_eq hmain hraw hfilled]
    exact congrArg some (Document.parse_entry (by decide +kernel) (by decide +kernel) n)
  have hnone : ∀ p, ¬ w.Imports start p := by
    rintro path ⟨n, document, es, members, member, hdocument, htop, hmembers, hmember, _⟩
    rw [hentry n] at hdocument
    cases hdocument
    cases htop
    cases hmembers
    cases hmember
  have hfile : ∀ p, w.IsNeeded start p → w.files.opened? p.text ≠ some .directory := by
    intro path hpath
    rw [hpath.eq_of_no_imports hnone, hmain]
    nofun
  have hfails : (w.loadSettings "main" {}).1 = .error (.unread .notMap) := by decide +kernel
  cases hall w "main" {} _ (isAcyclic_of_no_imports hnone) hfile hfails

end Surroundings

end StagedLoad

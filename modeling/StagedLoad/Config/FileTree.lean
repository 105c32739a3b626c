import StagedLoad.Text.Bytes
import StagedLoad.Text.Split
import StagedLoad.Value

/-!
# Files

Files and directories, of which one is the current directory.  A path is looked up part by part, and
everything before a part must be a directory; a path is made absolute by its text alone, so that a
part and the two dots behind it cancel.  Names are compared by their bytes.
-/

namespace StagedLoad

/-- The parts of a text between its slashes. -/
def splitPath (path : Text) : List Text := partsOf (.char '/') path

/-- Whether a path begins at the root. -/
def isAbsolute (path : Text) : Bool := path.head? == some (.char '/')

/-- Whether a part of a path says nothing. -/
def saysNothing (part : Text) : Bool := part == [] || part == "."

/-- The parts without those that say nothing, where two dots take away the part before them. -/
def normalParts (parts : List Text) : List Text :=
  parts.foldl (fun out part =>
    if saysNothing part then out else if part == ".." then out.dropLast else out ++ [part]) []

/-- The path from the root with these parts. -/
def pathOf (parts : List Text) : Text := "/" ++ Text.join "/" parts

/-- What is at a place. -/
inductive FileEntry where
  | file (bytes : List UInt8)
  | directory

/-- Files and directories, each with its parts from the root. -/
structure FileTree where
  /-- The parts of the current directory. -/
  root : List Text
  files : List (List Text × List UInt8)
  /-- The directories that hold no file here. -/
  directories : List (List Text) := []

namespace FileTree

/-- The tree with the files of these names, seen from the current directory, and the directories. -/
def ofNames (root : Text) (files : List (Text × List UInt8)) (directories : List Text) :
    FileTree :=
  let here := normalParts (splitPath root)
  let place (name : Text) : List Text :=
    normalParts (if isAbsolute name then splitPath name else here ++ splitPath name)
  { root := here
    files := files.map fun (name, bytes) => (place name, bytes)
    directories := directories.map place }

/-- What is at the place with these parts from the root. -/
def entry? (t : FileTree) (parts : List Text) : Option FileEntry :=
  match t.files.lookup parts with
  | some bytes => some (.file bytes)
  | none =>
    let places := t.root :: t.directories ++ t.files.map (·.1)
    if places.any parts.isPrefixOf then some .directory else none

/-- Whether there is a directory with these parts. -/
def hasDirectory (t : FileTree) (parts : List Text) : Bool :=
  match t.entry? parts with
  | some .directory => true
  | _ => false

/-- The place that is reached part by part. -/
def walk (t : FileTree) : List Text → List Text → Option (List Text)
  | place, [] => some place
  | place, part :: parts =>
    if !t.hasDirectory place then none
    else if saysNothing part then t.walk place parts
    else if part == ".." then t.walk place.dropLast parts
    else if (t.entry? (place ++ [part])).isSome then t.walk (place ++ [part]) parts
    else none

/-- The longest path that is looked up, counted in bytes. -/
def maxPathLength : Nat := 4095

/-- The path in the form that it is looked up in, where bytes that make up a character are that
character.  A path without bytes is not looked up, and neither is one that is too long. -/
def lookedUp? (path : Text) : Option Text :=
  ((pathBytes? path).filter fun bs => bs.length ≤ maxPathLength).map pathText

/-- Whether there is something at the path. -/
def contains (t : FileTree) (path : Text) : Bool :=
  match lookedUp? path with
  | none => false
  | some p =>
    !p.isEmpty && (t.walk (if isAbsolute p then [] else t.root) (splitPath p)).isSome

/-- The parts of the path from the root. -/
def absoluteParts (t : FileTree) (path : Text) : List Text :=
  normalParts (if isAbsolute path then splitPath path else t.root ++ splitPath path)

/-- What is opened for the path, which is made absolute first. -/
def opened? (t : FileTree) (path : Text) : Option FileEntry :=
  (lookedUp? path).bind fun p => t.entry? (t.absoluteParts p)

/-- The path from the root.  Two slashes at the beginning stay two. -/
def absolute (t : FileTree) (path : Text) : Text :=
  let lead := path.takeWhile (· == .char '/')
  (if lead.length = 2 then [.char '/'] else []) ++ pathOf (t.absoluteParts path)

end FileTree

/-- The directory of a path from the root. -/
def directoryOf (path : Text) : Text :=
  let upTo := (path.reverse.dropWhile (· != .char '/')).reverse
  if upTo.all (· == .char '/') then upTo else (upTo.reverse.dropWhile (· == .char '/')).reverse

/-- A path as it is seen from a directory. -/
def joinPath (directory path : Text) : Text :=
  if isAbsolute path then path
  else if directory.getLast?.all (· == .char '/') then directory ++ path
  else directory ++ "/" ++ path

/-- A path, which is given as a text or as the bytes of one. -/
structure FilePath where
  text : Text
  inBytes : Bool := false
deriving DecidableEq, Repr

/-- The path with these bytes. -/
def FilePath.ofBytes (bs : List UInt8) : FilePath := ⟨pathText bs, true⟩

/-- The path as it was given. -/
def FilePath.value (p : FilePath) : Value :=
  if p.inBytes then .bytes ((pathBytes? p.text).getD []) else .text p.text

/-- The text with all ends of lines written as line feeds. -/
def withLineFeeds : Text → Text
  | [] => []
  | .char '\r' :: .char '\n' :: t => .char '\n' :: withLineFeeds t
  | s :: t => (if s = .char '\r' then .char '\n' else s) :: withLineFeeds t

/-- A text without carriage returns has its line feeds already. -/
theorem withLineFeeds_eq {t : Text} (h : .char '\r' ∉ t) : withLineFeeds t = t := by
  fun_induction withLineFeeds t with
  | case1 => rfl
  | case2 t ih => exact absurd List.mem_cons_self h
  | case3 s t hs ih =>
    obtain ⟨hne, ht⟩ := not_or.mp (mt List.mem_cons.mpr h)
    rw [if_neg (Ne.symm hne), ih ht]

end StagedLoad

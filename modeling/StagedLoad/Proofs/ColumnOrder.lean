import Mathlib.Data.List.Basic
import StagedLoad.Proofs.Delimited
import StagedLoad.Sql.Definition

/-!
# One order of columns

Rows are matched to columns by their place, so every list of columns that is written for a load has
to have the columns of the schema in their order.  A statement is read back with the tables, the
keys and the rule of the update as they were given; what stands in between are lists of quoted
names.

* `members_join` : a list is read back, whatever follows that does not go on like it.
* `columnLists?` : the lists of names that stand in a statement of a known form.
* `quotedNames_definitions` : the names in a table definition.
* `column_order_everywhere` : all of them are the columns of the schema.
-/

namespace StagedLoad

/-! ## Names and lists of names -/

/-- The name that the text begins with, quoted and behind `before`, and what follows it. -/
def quotedName? (before t : Text) : Option (Text × Text) := do
  let inside ← t.dropPrefix? (before ++ [.char '\x22'])
  let rest ← (inside.dropWhile (· != .char '\x22')).dropPrefix? [.char '\x22']
  return (inside.takeWhile (· != .char '\x22'), rest)

/-- The names of the assignment that the text begins with, one on each side. -/
def assignment? (t : Text) : Option ((Text × Text) × Text) := do
  let (left, t) ← quotedName? [] t
  let t ← t.dropPrefix? " = "
  let (right, t) ← quotedName? "S." t
  return ((left, right), t)

/-- At most so many members that the text begins with, with commas between them, and what follows
them. -/
def membersUpTo {α : Type} (read : Text → Option (α × Text)) : Nat → Text → List α × Text
  | 0, t => ([], t)
  | bound + 1, t =>
    match read t with
    | none => ([], t)
    | some (x, rest) =>
      match rest.dropPrefix? ", " with
      | none => ([x], rest)
      | some more => (membersUpTo read bound more).map (x :: ·) id

/-- The members that the text begins with, with commas between them, and what follows them. -/
def members {α : Type} (read : Text → Option (α × Text)) (t : Text) : List α × Text :=
  membersUpTo read (t.length + 1) t

/-- A text that begins with none of the stop symbols does not go on like one that does. -/
theorem dropPrefix?_of_avoids {stops p t : Text} {x : Symbol} (hp : p.head? = some x)
    (hx : x ∈ stops) (ht : Avoids stops t) : t.dropPrefix? p = none := by
  cases p with
  | nil => cases hp
  | cons y p =>
    obtain rfl := Option.some.inj hp
    cases t with
    | nil => rfl
    | cons z t =>
      have hne : z ≠ y := fun heq => ht z rfl (heq ▸ hx)
      simp [List.dropPrefix?, hne]

/-- A text that is put in front can be taken away. -/
theorem dropPrefix?_append (p t : Text) : (p ++ t).dropPrefix? p = some t :=
  List.dropPrefix?_append_of_beq t (beq_self_eq_true p)

/-- **A quoted name is read back**, whatever follows it. -/
theorem quotedName?_append {name : Text} (hname : Unmarked name) (before rest : Text) :
    quotedName? before (before ++ (({} : Quoting).identifier name ++ rest)) =
      some (name, rest) := by
  have hplain : ∀ x ∈ name, (x != Symbol.char '\x22') = true := by
    intro x hx
    rw [bne_iff_ne]
    rintro rfl
    exact hname hx
  have hopening : before ++ (({} : Quoting).identifier name ++ rest) =
      (before ++ [.char '\x22']) ++ (name ++ [.char '\x22'] ++ rest) := by
    simp [Quoting.identifier_append]
  have htake : (name ++ [Symbol.char '\x22'] ++ rest).takeWhile (· != .char '\x22') = name := by
    rw [List.append_assoc, List.takeWhile_append_of_pos hplain]
    exact List.append_nil name
  have hdrop : (name ++ [Symbol.char '\x22'] ++ rest).dropWhile (· != .char '\x22') =
      [.char '\x22'] ++ rest := by
    rw [List.append_assoc, List.dropWhile_append_of_pos hplain]
    rfl
  simp only [hopening, quotedName?, dropPrefix?_append, htake, hdrop, Option.bind_eq_bind,
    Option.bind_some]
  rfl

/-- Where nothing like the beginning of a quoted name comes, none is read. -/
theorem quotedName?_of_avoids {stops before t : Text} {x : Symbol}
    (hbefore : (before ++ [Symbol.char '\x22']).head? = some x) (hx : x ∈ stops)
    (ht : Avoids stops t) : quotedName? before t = none := by
  have hnone := dropPrefix?_of_avoids hbefore hx ht
  simp only [quotedName?, hnone, Option.bind_eq_bind, Option.bind_none]

/-- **An assignment is read back**, whatever follows it. -/
theorem assignment?_append {name : Text} (hname : Unmarked name) (rest : Text) :
    assignment? (assignmentSql name ++ rest) = some ((name, name), rest) := by
  let right : Text := ({} : Quoting).identifier name ++ rest
  have hleft := quotedName?_append hname [] (Text.ofString " = " ++ (Text.ofString "S." ++ right))
  have hright : quotedName? "S." (Text.ofString "S." ++ right) = some (name, rest) :=
    quotedName?_append hname "S." rest
  have hsides : assignmentSql name ++ rest = [] ++ (({} : Quoting).identifier name ++
      (Text.ofString " = " ++ (Text.ofString "S." ++ right))) := by
    have hequals : Text.ofString " = S." = Text.ofString " = " ++ Text.ofString "S." := rfl
    simp only [assignmentSql, hequals, List.append_assoc, List.nil_append, right]
  simp only [hsides, assignment?, hleft, dropPrefix?_append, hright, Option.bind_eq_bind,
    Option.bind_some]
  rfl

/-- A list with separators has at least as many symbols as members. -/
theorem length_le_separated (parts : List Text) :
    parts.length ≤ (separated ", " parts).length := by
  induction parts with
  | nil => exact Nat.zero_le _
  | cons part parts ih =>
    have hcomma : (Text.ofString ", ").length = 2 := rfl
    rw [separated_cons, List.length_append, List.length_append, List.length_cons]
    omega

section

variable {α β : Type} {read : Text → Option (α × Text)} {write : β → Text} {value : β → α}
  {P : β → Prop} {rest : Text}

/-- Members behind separators, by induction on them: they end where no separator comes. -/
theorem membersUpTo_separated
    (hread : ∀ x, P x → ∀ rest, read (write x ++ rest) = some (value x, rest))
    (hrest : rest.dropPrefix? ", " = none) {x : β} (hx : P x) {xs : List β} (hxs : ∀ y ∈ xs, P y)
    {bound : Nat} (hbound : xs.length ≤ bound) :
    membersUpTo read (bound + 1) (write x ++ (separated ", " (xs.map write) ++ rest)) =
      ((x :: xs).map value, rest) := by
  induction xs generalizing x bound with
  | nil =>
    have hlast : separated ", " (([] : List β).map write) ++ rest = rest := rfl
    rw [hlast, membersUpTo, hread x hx]
    simp only [hrest]
    rfl
  | cons y xs ih =>
    obtain ⟨bound, rfl⟩ := Nat.exists_eq_add_of_le' (Nat.le_trans (Nat.le_add_left 1 _) hbound)
    obtain ⟨hy, hys⟩ := List.forall_mem_cons.mp hxs
    have hnext : separated ", " ((y :: xs).map write) ++ rest =
        ", " ++ (write y ++ (separated ", " (xs.map write) ++ rest)) := by
      simp [separated_cons]
    have htail := ih hy hys (Nat.le_of_succ_le_succ hbound)
    rw [hnext, membersUpTo, hread x hx]
    simp only [dropPrefix?_append, htail]
    rfl

/-- **A list is read back**, whatever follows that begins with none of the stop symbols. -/
theorem members_join {stops : Text}
    (hread : ∀ x, P x → ∀ rest, read (write x ++ rest) = some (value x, rest))
    (hend : ∀ t, Avoids stops t → read t = none) (hcomma : Symbol.char ',' ∈ stops)
    (hrest : Avoids stops rest) {xs : List β} (hxs : ∀ x ∈ xs, P x) :
    members read (Text.join ", " (xs.map write) ++ rest) = (xs.map value, rest) := by
  cases xs with
  | nil =>
    have ht : read rest = none := hend rest hrest
    show membersUpTo read (rest.length + 1) rest = ([], rest)
    rw [membersUpTo, ht]
  | cons x xs =>
    obtain ⟨hx, hxs⟩ := List.forall_mem_cons.mp hxs
    have ht : Text.join ", " ((x :: xs).map write) ++ rest =
        write x ++ (separated ", " (xs.map write) ++ rest) := by
      rw [List.map_cons, Text.join_cons, List.append_assoc]
    -- Every member but the first has a separator, so that the length of the text is bound enough.
    have hbound : xs.length ≤ (write x ++ (separated ", " (xs.map write) ++ rest)).length := by
      have hlen := length_le_separated (xs.map write)
      rw [List.length_map] at hlen
      rw [List.length_append, List.length_append]
      omega
    rw [ht]
    exact membersUpTo_separated hread (dropPrefix?_of_avoids rfl hcomma hrest) hx hxs hbound

end

/-! ## Statements of a known form -/

/-- A fragment of a statement. -/
inductive Fragment where
  /-- A text that is given. -/
  | known (t : Text)
  /-- A list of quoted names, each behind the same text. -/
  | names (before : Text)
  /-- A list of assignments. -/
  | assignments

/-- The lists of names in the fragment that the text begins with, and what follows it. -/
def Fragment.read? : Fragment → Text → Option (List (List Text) × Text)
  | known k, t => (t.dropPrefix? k).map fun rest => ([], rest)
  | names before, t => some ((members (quotedName? before) t).map (fun ns => [ns]) id)
  | assignments, t =>
    some ((members assignment? t).map (fun sides => [sides.map Prod.fst, sides.map Prod.snd]) id)

/-- The lists of names in a statement that is made of the fragments and of nothing else. -/
def columnLists? : List Fragment → Text → Option (List (List Text))
  | [], t => if t.isEmpty then some [] else none
  | fragment :: fragments, t => do
    let (lists, rest) ← fragment.read? t
    let more ← columnLists? fragments rest
    return lists ++ more

/-- One SELECT from a staging table. -/
def selectForm (t : TableRef) : List Fragment :=
  [.known "SELECT ", .names "", .known (" FROM " ++ ({} : Quoting).table t)]

/-- One SELECT for each of the staging tables, in their order. -/
def unionForm : List TableRef → List Fragment
  | [] => []
  | t :: ts => selectForm t ++ ts.flatMap fun t => .known " UNION ALL " :: selectForm t

/-- The assignments of an update: those of the rule, or a list of them. -/
def setForm (m : MergeSpec) : Fragment :=
  match m.rule with
  | some rule => .known (Text.join ", " rule)
  | none => .assignments

/-- The form of the statement that adds all staging rows. -/
def appendForm (sources : List TableRef) (target : TableRef) : List Fragment :=
  .known ("INSERT INTO " ++ ({} : Quoting).table target ++ " (") :: .names "" :: .known ") " ::
    unionForm sources

/-- The form of the statement that adds the staging rows with new keys. -/
def insertForm (sources : List TableRef) (target : TableRef) (m : MergeSpec) : List Fragment :=
  .known ("INSERT INTO " ++ ({} : Quoting).table target ++ " (") :: .names "" ::
    .known ") SELECT * FROM (" :: unionForm sources ++
    [.known (") AS S WHERE NOT EXISTS (SELECT 1 FROM " ++ ({} : Quoting).table target ++
      " AS T WHERE " ++ keyCondition {} m.keys ++ ")")]

/-- The form of the statement that updates the rows with known keys. -/
def updateForm (sources : List TableRef) (target : TableRef) (m : MergeSpec) : List Fragment :=
  .known "UPDATE T SET " :: setForm m ::
    .known (" FROM " ++ ({} : Quoting).table target ++ " AS T JOIN (") :: unionForm sources ++
    [.known (") AS S ON " ++ keyCondition {} m.keys)]

/-- The form of the statement that does both. -/
def mergeForm (sources : List TableRef) (target : TableRef) (m : MergeSpec) : List Fragment :=
  .known ("MERGE INTO " ++ ({} : Quoting).table target ++ " AS T USING (") :: unionForm sources ++
    [.known (") AS S ON (" ++ keyCondition {} m.keys ++ ") WHEN MATCHED THEN UPDATE SET "),
      setForm m, .known " WHEN NOT MATCHED THEN INSERT (", .names "", .known ") VALUES (",
      .names "S.", .known ");"]

/-- The lists of the assignments of an update: both sides of the default ones. -/
def setLists (m : MergeSpec) (names : List Text) : List (List Text) :=
  if m.rule.isNone then [names, names] else []

/-! ## Fragments -/

section

variable {s : Schema} {fragments : List Fragment} {rest : Text}

/-- The lists of the first fragment come before those of the others. -/
theorem columnLists?_cons {fragment : Fragment} {t : Text} {lists : List (List Text)}
    (hread : fragment.read? t = some (lists, rest)) :
    columnLists? (fragment :: fragments) t = (columnLists? fragments rest).map (lists ++ ·) := by
  simp only [columnLists?, hread, Option.bind_eq_bind, Option.bind_some]
  cases columnLists? fragments rest <;> rfl

/-- A text that is given has no lists. -/
theorem columnLists?_known (k : Text) :
    columnLists? (.known k :: fragments) (k ++ rest) = columnLists? fragments rest := by
  have hread : (Fragment.known k).read? (k ++ rest) = some ([], rest) := by
    rw [Fragment.read?, dropPrefix?_append]
    rfl
  rw [columnLists?_cons hread]
  cases columnLists? fragments rest <;> rfl

/-- A list of names is read back if what follows begins neither with a comma nor like a name. -/
theorem columnLists?_names (hs : ∀ name ∈ s.names, Unmarked name) {before : Text} {x : Symbol}
    (hbefore : (before ++ [Symbol.char '\x22']).head? = some x)
    (hrest : Avoids [x, .char ','] rest) :
    columnLists? (.names before :: fragments) (columnList {} before s ++ rest) =
      (columnLists? fragments rest).map (s.names :: ·) := by
  have hread (name : Text) (hname : Unmarked name) (rest : Text) :
      quotedName? before (before ++ ({} : Quoting).identifier name ++ rest) =
        some (id name, rest) := by
    rw [List.append_assoc]
    exact quotedName?_append hname before rest
  have hend (t : Text) (ht : Avoids [x, .char ','] t) : quotedName? before t = none :=
    quotedName?_of_avoids hbefore List.mem_cons_self ht
  have hmembers := members_join hread hend (List.mem_cons_of_mem _ List.mem_cons_self) hrest hs
  have hlist : (Fragment.names before).read? (columnList {} before s ++ rest) =
      some ([s.names], rest) := by
    rw [Fragment.read?, columnList, hmembers, List.map_id]
    rfl
  exact columnLists?_cons hlist

/-- The default assignments have the names on both sides. -/
theorem columnLists?_assignments (hs : ∀ name ∈ s.names, Unmarked name)
    (hrest : Avoids [.char '\x22', .char ','] rest) :
    columnLists? (.assignments :: fragments) (Text.join ", " (s.names.map assignmentSql) ++ rest) =
      (columnLists? fragments rest).map ([s.names, s.names] ++ ·) := by
  have hend (t : Text) (ht : Avoids [.char '\x22', .char ','] t) : assignment? t = none := by
    have hnone : quotedName? [] t = none := quotedName?_of_avoids rfl List.mem_cons_self ht
    simp only [assignment?, hnone, Option.bind_eq_bind, Option.bind_none]
  have hmembers := members_join (fun _ hname => assignment?_append hname) hend
    (List.mem_cons_of_mem _ List.mem_cons_self) hrest hs
  refine columnLists?_cons ?_
  rw [Fragment.read?, hmembers]
  simp [Function.comp_def]

/-- A SELECT has one list. -/
theorem columnLists?_select (hs : ∀ name ∈ s.names, Unmarked name) (t : TableRef) :
    columnLists? (selectForm t ++ fragments) (selectSql (s.names, t) ++ rest) =
      (columnLists? fragments rest).map (s.names :: ·) := by
  simp only [selectForm, selectSql, ← columnList_eq, List.append_assoc, List.cons_append,
    List.nil_append]
  rw [columnLists?_known, columnLists?_names hs rfl (.of_head rfl (by decide)), ← List.append_assoc,
    columnLists?_known]

/-- Further SELECTs have one list each, by induction on the tables. -/
theorem columnLists?_selects (hs : ∀ name ∈ s.names, Unmarked name) (ts : List TableRef) :
    columnLists? ((ts.flatMap fun t => .known " UNION ALL " :: selectForm t) ++ fragments)
        (separated " UNION ALL " ((ts.map fun t => (s.names, t)).map selectSql) ++ rest) =
      (columnLists? fragments rest).map (List.replicate ts.length s.names ++ ·) := by
  induction ts with
  | nil => exact Option.map_id'.symm
  | cons t ts ih =>
    have hforms : ((t :: ts).flatMap fun t => .known " UNION ALL " :: selectForm t) ++ fragments =
        .known " UNION ALL " :: (selectForm t ++
          ((ts.flatMap fun t => .known " UNION ALL " :: selectForm t) ++ fragments)) := by simp
    rw [hforms, List.map_cons, List.map_cons, separated_cons, List.append_assoc, List.append_assoc,
      columnLists?_known, columnLists?_select hs, ih, Option.map_map]
    rfl

/-- **A union has one SELECT for each of the staging tables**, in their order. -/
theorem columnLists?_union (hs : ∀ name ∈ s.names, Unmarked name) (sources : List TableRef) :
    columnLists? (unionForm sources ++ fragments) (unionSql {} sources s ++ rest) =
      (columnLists? fragments rest).map (List.replicate sources.length s.names ++ ·) := by
  rw [unionSql_eq]
  cases sources with
  | nil => exact Option.map_id'.symm
  | cons t ts =>
    rw [unionForm, List.append_assoc, List.map_cons, List.map_cons, Text.join_cons,
      List.append_assoc, columnLists?_select hs, columnLists?_selects hs, Option.map_map]
    rfl

/-- The assignments of an update are those of the rule, or have the columns on both sides. -/
theorem columnLists?_set (hs : ∀ name ∈ s.names, Unmarked name) (m : MergeSpec)
    (hrest : Avoids [.char '\x22', .char ','] rest) :
    columnLists? (setForm m :: fragments) (updateRule {} s m ++ rest) =
      (columnLists? fragments rest).map (setLists m s.names ++ ·) := by
  cases hrule : m.rule with
  | some rule =>
    rw [setForm, updateRule, setLists, hrule]
    exact (columnLists?_known _).trans Option.map_id'.symm
  | none =>
    rw [updateRule_eq hrule, setForm, setLists, hrule]
    exact columnLists?_assignments hs hrest

/-! ## Statements -/

theorem columnLists?_last (k : Text) : columnLists? [.known k] k = some [] := by
  have hread : columnLists? [.known k] (k ++ []) = some [] := columnLists?_known k
  rw [List.append_nil] at hread
  exact hread

/-- The target and every staging table have the columns of the schema. -/
theorem columnLists?_appendSql (hs : ∀ name ∈ s.names, Unmarked name) (sources : List TableRef)
    (target : TableRef) :
    columnLists? (appendForm sources target) (appendSql {} sources s target) =
      some (s.names :: List.replicate sources.length s.names) := by
  have hsql : appendSql {} sources s target =
      ("INSERT INTO " ++ ({} : Quoting).table target ++ " (") ++
        (columnList {} "" s ++ (Text.ofString ") " ++ unionSql {} sources s)) := by
    simp only [appendSql, List.append_assoc]
  have hunion : columnLists? (unionForm sources ++ []) (unionSql {} sources s ++ []) =
      some (List.replicate sources.length s.names ++ []) := columnLists?_union hs sources
  rw [List.append_nil, List.append_nil, List.append_nil] at hunion
  rw [hsql, appendForm, columnLists?_known, columnLists?_names hs rfl (.of_head rfl (by decide)),
    columnLists?_known, hunion]
  rfl

/-- The target and every staging table have them when only new keys are added. -/
theorem columnLists?_insertSql (hs : ∀ name ∈ s.names, Unmarked name) (sources : List TableRef)
    (target : TableRef) (m : MergeSpec) :
    columnLists? (insertForm sources target m) (collectInsertSql {} sources s target m) =
      some (s.names :: List.replicate sources.length s.names) := by
  have hsql : collectInsertSql {} sources s target m =
      ("INSERT INTO " ++ ({} : Quoting).table target ++ " (") ++ (columnList {} "" s ++
        (Text.ofString ") SELECT * FROM (" ++ (unionSql {} sources s ++
          (") AS S WHERE NOT EXISTS (SELECT 1 FROM " ++ ({} : Quoting).table target ++
            " AS T WHERE " ++ keyCondition {} m.keys ++ ")")))) := by
    simp only [collectInsertSql, List.append_assoc]
  simp only [insertForm, List.cons_append]
  rw [hsql, columnLists?_known, columnLists?_names hs rfl (.of_head rfl (by decide)),
    columnLists?_known, columnLists?_union hs, columnLists?_last]
  simp

/-- An update has them in its default assignments and in every SELECT. -/
theorem columnLists?_updateSql (hs : ∀ name ∈ s.names, Unmarked name) (sources : List TableRef)
    (target : TableRef) (m : MergeSpec) :
    columnLists? (updateForm sources target m) (collectUpdateSql {} sources s target m) =
      some (setLists m s.names ++ List.replicate sources.length s.names) := by
  have hsql : collectUpdateSql {} sources s target m =
      Text.ofString "UPDATE T SET " ++ (updateRule {} s m ++
        ((" FROM " ++ ({} : Quoting).table target ++ " AS T JOIN (") ++ (unionSql {} sources s ++
          (") AS S ON " ++ keyCondition {} m.keys)))) := by
    simp only [collectUpdateSql, List.append_assoc]
  simp only [updateForm, List.cons_append]
  rw [hsql, columnLists?_known, columnLists?_set hs m (.of_head rfl (by decide)),
    columnLists?_known, columnLists?_union hs, columnLists?_last]
  simp

/-- A merge has them in all these places, and in those of its insertion. -/
theorem columnLists?_mergeSql (hs : ∀ name ∈ s.names, Unmarked name) (sources : List TableRef)
    (target : TableRef) (m : MergeSpec) :
    columnLists? (mergeForm sources target m) (collectMergeSql {} sources s target m) =
      some (List.replicate sources.length s.names ++ setLists m s.names ++
        [s.names, s.names]) := by
  have hsql : collectMergeSql {} sources s target m =
      ("MERGE INTO " ++ ({} : Quoting).table target ++ " AS T USING (") ++ (unionSql {} sources s ++
        ((") AS S ON (" ++ keyCondition {} m.keys ++ ") WHEN MATCHED THEN UPDATE SET ") ++
          (updateRule {} s m ++ (Text.ofString " WHEN NOT MATCHED THEN INSERT (" ++
            (columnList {} "" s ++ (Text.ofString ") VALUES (" ++
              (columnList {} "S." s ++ Text.ofString ");"))))))) := by
    simp only [collectMergeSql, List.append_assoc]
  simp only [mergeForm, List.cons_append]
  rw [hsql, columnLists?_known, columnLists?_union hs, columnLists?_known,
    columnLists?_set hs m (.of_head rfl (by decide)), columnLists?_known,
    columnLists?_names hs rfl (.of_head rfl (by decide)), columnLists?_known,
    columnLists?_names hs rfl (.of_head rfl (by decide)), columnLists?_last]
  simp

end

/-! ## Table definitions -/

/-- The texts between marks, given the texts that the marks divide. -/
def insides : List Text → List Text
  | _ :: inside :: outside :: parts => inside :: insides (outside :: parts)
  | _ => []

/-- The quoted names in a text. -/
def quotedNames (t : Text) : List Text := insides (partsOf (.char '\x22') t)

/-- What is before the first mark is no name. -/
theorem insides_cons (part part' : Text) (parts : List Text) :
    insides (part :: parts) = insides (part' :: parts) := by
  rcases parts with _ | ⟨inside, _ | ⟨outside, parts⟩⟩ <;> rfl

/-- A quoted name is the first one if no mark stands before it. -/
theorem quotedNames_identifier {name : Text} (hname : Unmarked name) (rest : Text) :
    quotedNames (({} : Quoting).identifier name ++ rest) = name :: quotedNames rest := by
  have hparts : partsOf (.char '\x22') (({} : Quoting).identifier name ++ rest) =
      [] :: name :: partsOf (.char '\x22') rest := by
    rw [Quoting.identifier_append]
    exact (partsOf_append_mark List.not_mem_nil _).trans
      (congrArg ([] :: ·) (partsOf_append_mark hname rest))
  rw [quotedNames, hparts, quotedNames]
  cases hrest : partsOf (.char '\x22') rest with
  | nil => exact absurd hrest (partsOf_ne_nil _ _)
  | cons outside parts => rfl

/-- A text without marks has no part in the names. -/
theorem quotedNames_append {t : Text} (ht : Unmarked t) (rest : Text) :
    quotedNames (t ++ rest) = quotedNames rest := by
  cases hrest : partsOf (.char '\x22') rest with
  | nil => exact absurd hrest (partsOf_ne_nil _ _)
  | cons outside parts =>
    rw [quotedNames, partsOf_append ht hrest, quotedNames, hrest]
    exact insides_cons _ _ parts

/-- Neither the name of the column nor its type, mapped or declared, holds the quoting mark. -/
structure Column.IsUnmarked (c : Column) : Prop where
  name : Unmarked c.name
  typeName : Unmarked c.typeName
  declared : ∀ d ∈ c.declared, Unmarked d

theorem unmarked_append {t t' : Text} : Unmarked (t ++ t') ↔ Unmarked t ∧ Unmarked t' := by
  rw [Unmarked, Unmarked, Unmarked, List.mem_append, not_or]

/-- A number is written without a mark. -/
theorem unmarked_toString (n : Int) : Unmarked (Text.ofString (toString n)) := by
  intro hmem
  obtain ⟨c, hc, hmark⟩ := List.mem_map.mp hmem
  obtain rfl := Symbol.char.inj hmark
  rcases mem_toString hc with h | h <;> cases h

/-- A type without marks has none with its parameters either. -/
theorem Column.unmarked_typeIn (c : Column) (hc : Unmarked c.typeName) (form : DeclareForm) :
    Unmarked (c.typeIn form) := by
  have hsized : Unmarked (c.typeName ++ "(" ++ toString c.size) :=
    unmarked_append.mpr ⟨unmarked_append.mpr ⟨hc, by decide⟩, unmarked_toString c.size⟩
  have hclosed {t : Text} (ht : Unmarked t) : Unmarked (t ++ ")") :=
    unmarked_append.mpr ⟨ht, by decide⟩
  have hscaled : Unmarked (c.typeName ++ "(" ++ toString c.size ++ "," ++ toString c.scale) :=
    unmarked_append.mpr ⟨unmarked_append.mpr ⟨hsized, by decide⟩, unmarked_toString c.scale⟩
  cases form with
  | simple => exact hc
  | size => exact hclosed hsized
  | sizeAndScale =>
    rw [typeIn]
    split
    · exact unmarked_append.mpr ⟨hsized, by decide⟩
    · exact hclosed hscaled
  | sizeAndOptionalScale =>
    rw [typeIn]
    split
    · exact hclosed hsized
    · exact hclosed hscaled

/-- No mark comes into a type that was mapped. -/
theorem Product.unmarked_columnType (p : Product) {c : Column} (hc : Unmarked c.typeName) :
    Unmarked (p.columnType c) := by
  unfold columnType
  split
  · decide
  split
  · cases p <;> decide
  split
  · decide
  split
  · decide
  split
  · decide
  · exact c.unmarked_typeIn hc _

/-- The definition of a column has one quoted name, that of the column. -/
theorem quotedNames_columnDefinition {typeOf : Column → Text} {c : Column} (hc : c.IsUnmarked)
    (htype : Unmarked (typeOf c)) (rest : Text) :
    quotedNames (columnDefinition {} typeOf c ++ rest) = c.name :: quotedNames rest := by
  obtain ⟨type, hunmarked, hdefinition⟩ : ∃ type, Unmarked type ∧
      columnDefinition {} typeOf c = ({} : Quoting).identifier c.name ++ (" " ++ type) := by
    refine ⟨_, ?_, List.append_assoc _ _ _⟩
    cases hdeclared : c.declared with
    | none => exact htype
    | some d =>
      show Unmarked (if d.isEmpty then typeOf c else d)
      split
      · exact htype
      · exact hc.declared d hdeclared
  have hblank : Unmarked (" " ++ type) := unmarked_append.mpr ⟨by decide, hunmarked⟩
  rw [hdefinition, List.append_assoc, quotedNames_identifier hc.name, quotedNames_append hblank]

/-- The separators between the parts of a text have no part in the names. -/
theorem quotedNames_separated (parts : List Text) :
    quotedNames (separated ", " parts) = quotedNames (Text.join ", " parts) := by
  cases parts with
  | nil => rfl
  | cons part parts =>
    rw [separated_cons, ← Text.join_cons, quotedNames_append (by decide)]

/-- **The names in a table definition** are the columns, and those of the constraint behind them. -/
theorem quotedNames_definitions {typeOf : Column → Text} {columns : List Column}
    (hcolumns : ∀ c ∈ columns, c.IsUnmarked ∧ Unmarked (typeOf c)) (tableConstraint : Option Text) :
    quotedNames (Text.join ", " (columns.map (columnDefinition {} typeOf) ++
        tableConstraint.toList)) =
      columns.map Column.name ++ tableConstraint.toList.flatMap quotedNames := by
  induction columns with
  | nil =>
    cases tableConstraint with
    | none => rfl
    | some t =>
      have hjoin : Text.join ", " [t] = t := (Text.join_cons ", " t []).trans (List.append_nil t)
      show quotedNames (Text.join ", " [t]) = quotedNames t ++ []
      rw [hjoin, List.append_nil]
  | cons c columns ih =>
    obtain ⟨⟨hc, htype⟩, hcolumns⟩ := List.forall_mem_cons.mp hcolumns
    rw [List.map_cons, List.cons_append, Text.join_cons,
      quotedNames_columnDefinition hc htype, quotedNames_separated, ih hcolumns]
    rfl

/-- What stands behind a table definition. -/
def optionClause (tableOption : Option Text) : Text :=
  match present tableOption with
  | some o => " " ++ o
  | none => []

/-- What a table definition defines stands between the name of the table and the option. -/
theorem createTableSql_eq (typeOf : Column → Text) (t : TableRef) (s : Schema)
    (tableConstraint tableOption : Option Text) :
    createTableSql {} typeOf t s tableConstraint tableOption =
      "CREATE TABLE " ++ ({} : Quoting).table t ++ " (" ++
        Text.join ", " (s.columns.map (columnDefinition {} typeOf) ++
          (present tableConstraint).toList) ++ ")" ++ optionClause tableOption := by
  rw [createTableSql, optionClause]
  cases present tableOption with
  | none => exact (List.append_nil _).symm
  | some o => exact List.append_assoc _ _ _

/-- **One order of columns everywhere.**  If no mark is in the names and the types of the columns,
what a table definition defines has the columns as its quoted names, and those of the constraint
behind them.  Each collect statement is read back completely, whatever its tables, keys and rule
are: its columns, both sides of the default assignments, one SELECT for each of the staging tables
in their order, and the values of the MERGE are all the columns of the schema. -/
theorem column_order_everywhere {s : Schema} (hs : ∀ c ∈ s.columns, c.IsUnmarked)
    (sources : List TableRef) (target : TableRef) (m : MergeSpec) :
    (∀ typeOf, (typeOf = Column.standardType ∨ ∃ p, typeOf = Product.columnType p) →
      ∀ tableConstraint tableOption, ∃ definitions,
        createTableSql {} typeOf target s tableConstraint tableOption =
          "CREATE TABLE " ++ ({} : Quoting).table target ++ " (" ++ definitions ++ ")" ++
            optionClause tableOption ∧
        quotedNames definitions =
          s.names ++ (present tableConstraint).toList.flatMap quotedNames) ∧
    columnLists? (appendForm sources target) (appendSql {} sources s target) =
      some (s.names :: List.replicate sources.length s.names) ∧
    columnLists? (insertForm sources target m) (collectInsertSql {} sources s target m) =
      some (s.names :: List.replicate sources.length s.names) ∧
    columnLists? (updateForm sources target m) (collectUpdateSql {} sources s target m) =
      some (setLists m s.names ++ List.replicate sources.length s.names) ∧
    columnLists? (mergeForm sources target m) (collectMergeSql {} sources s target m) =
      some (List.replicate sources.length s.names ++ setLists m s.names ++
        [s.names, s.names]) := by
  have hnames : ∀ name ∈ s.names, Unmarked name := by
    intro name hname
    obtain ⟨c, hc, rfl⟩ := List.mem_map.mp hname
    exact (hs c hc).name
  refine ⟨?_, columnLists?_appendSql hnames sources target,
    columnLists?_insertSql hnames sources target m, columnLists?_updateSql hnames sources target m,
    columnLists?_mergeSql hnames sources target m⟩
  intro typeOf htypeOf tableConstraint tableOption
  have htypes : ∀ c ∈ s.columns, c.IsUnmarked ∧ Unmarked (typeOf c) := by
    intro c hc
    refine ⟨hs c hc, ?_⟩
    rcases htypeOf with rfl | ⟨p, rfl⟩
    · exact c.unmarked_typeIn (hs c hc).typeName _
    · exact p.unmarked_columnType (hs c hc).typeName
  exact ⟨_, createTableSql_eq typeOf target s tableConstraint tableOption,
    quotedNames_definitions htypes (present tableConstraint)⟩

/-- Columns that look like parts of a list, one of them twice and one without a name, read from a
table whose name holds a mark. -/
theorem odd_columns_in_order :
    let s : Schema := ⟨[{ name := "a, b", typeName := "DECIMAL", size := 10, scale := 2 },
      { name := "", typeName := "INT", declared := some "INT), x (" },
      { name := "a, b", typeName := "CLOB" }]⟩
    let names : List Text := ["a, b", "", "a, b"]
    let sources : List TableRef := [.make "s\x22, \x22" none none, .make "r" (some "dw") none]
    let target : TableRef := .make "orders" (some "dbo") none
    let m : MergeSpec := { keys := ["a, b"] }
    (∀ c ∈ s.columns, c.IsUnmarked) ∧
      (∃ definitions, createTableSql {} (Product.columnType .synapse) target s
          (some "PRIMARY KEY (\x22k\x22)") none =
            "CREATE TABLE \x22dbo\x22.\x22orders\x22 (" ++ definitions ++ ")" ∧
        quotedNames definitions = names ++ [Text.ofString "k"]) ∧
      columnLists? (mergeForm sources target m) (collectMergeSql {} sources s target m) =
        some [names, names, names, names, names, names] := by
  intro s names sources target m
  have hs : ∀ c ∈ s.columns, c.IsUnmarked := by
    rintro c (_ | ⟨_, _ | ⟨_, _ | ⟨_, ⟨⟩⟩⟩⟩)
    · exact ⟨by decide, by decide, fun _ hd => nomatch hd⟩
    · exact ⟨by decide, by decide, fun _ hd => Option.some.inj hd ▸ by decide⟩
    · exact ⟨by decide, by decide, fun _ hd => nomatch hd⟩
  obtain ⟨hcreate, _, _, _, hmerge⟩ := column_order_everywhere hs sources target m
  refine ⟨hs, ?_, hmerge⟩
  obtain ⟨definitions, htext, hnames⟩ := hcreate _ (.inr ⟨.synapse, rfl⟩)
    (some "PRIMARY KEY (\x22k\x22)") none
  exact ⟨definitions, htext.trans (List.append_nil _), hnames.trans (by decide)⟩

end StagedLoad

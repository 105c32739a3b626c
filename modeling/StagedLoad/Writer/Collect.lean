import StagedLoad.Settings
import StagedLoad.Sql.Collect
import StagedLoad.Writer

/-!
# Writers: loads

Folding staging tables into a target.  The collect statements are a list, each with the count that
its row count is credited to, and are executed in order between the statement for before and the one
for after.

* `Writer.collectInsert`, `Writer.collectMerge` : the two ways to collect.
* `Writer.load` : what the settings ask for.
-/

namespace StagedLoad

/-- The counts of a result. -/
inductive Tally where
  | inserted
  | updated
  | merged
deriving DecidableEq, Repr

/-- The result with a row count set. -/
def CollectResult.credit (r : CollectResult) (n : Int) : Tally → CollectResult
  | .inserted => { r with inserted := n }
  | .updated => { r with updated := n }
  | .merged => { r with merged := n }

/-- The statements of a merge in order, each with its count. -/
def mergeStatements (q : Quoting) (strategy : MergeStrategy) (sources : List TableRef) (s : Schema)
    (target : TableRef) (m : MergeSpec) : List (Tally × Text) :=
  match strategy with
  | .merge => [(.merged, collectMergeSql q sources s target m)]
  | .updateInsert => [
    (.updated, collectUpdateSql q sources s target m),
    (.inserted, collectInsertSql q sources s target m)]

/-- Executes statements in order and credits their row counts. -/
def runTallied {σ : Type} [Driver σ] :
    List (Tally × Text) → CollectResult → Session σ CollectResult
  | [], r => pure r
  | (tally, sql) :: rest, r => do
    let n ← run sql
    runTallied rest (r.credit n tally)

namespace Writer

variable {σ : Type} [Driver σ] (w : Writer)

/-- Appends every staging row; the result is the row count. -/
def collectInsert (sources : List TableRef) (s : Schema) (target : TableRef) (truncateFirst : Bool)
    (preSql postSql : Option Text) : Session σ Int := do
  if truncateFirst then discard (run (deleteAllSql w.quoting target))
  runPresent preSql
  let inserted ← run (appendSql w.quoting sources s target)
  runPresent postSql
  commitIfNecessary
  say .info "Collect insert completed"
    [("target_table", .text target.text), ("inserted", .int inserted)]
  return inserted

/-- Folds staging rows into the target by keys.  A fault of the driver is logged and passed on. -/
def collectMerge (sources : List TableRef) (s : Schema) (target : TableRef) (m : MergeSpec)
    (strategy : MergeStrategy) (preSql postSql : Option Text) : Session σ CollectResult := do
  say .debug "Executing collect merge" [
    ("target_table", .text target.text),
    ("staging_tables", .int sources.length),
    ("merge_keys", .ofTexts m.keys),
    ("strategy", .text (Word.word strategy))]
  let body : Session σ CollectResult := do
    runPresent preSql
    let r ← runTallied (mergeStatements w.quoting strategy sources s target m) {}
    runPresent postSql
    commitIfNecessary
    return r
  let r ← body.observing fun f link => link.log .error "Collect merge failed" [
    ("target_table", .text target.text),
    ("error_type", .text (Word.word f.kind)),
    ("error_message", .text f.message)]
  say .info "Collect merge completed" [
    ("target_table", .text target.text),
    ("inserted", .int r.inserted),
    ("updated", .int r.updated),
    ("merged", .int r.merged)]
  return r

/-- Loads staging tables as the settings say: creates the target if it is missing, then merges if
there are settings for it and appends otherwise. -/
def load (c : OutputSettings) (sources : List TableRef) (s : Schema) : Session σ CollectResult := do
  if !(← tableExists c.target) then
    w.createTable c.target s c.tableConstraint c.tableOption
  match c.merge with
  | none =>
    let inserted ← w.collectInsert sources s c.target false c.beforeLoad c.afterLoad
    return { inserted }
  | some m =>
    w.collectMerge sources s c.target m.spec m.strategy c.beforeLoad c.afterLoad

end Writer

end StagedLoad

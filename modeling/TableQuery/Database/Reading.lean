/-
# TableQuery.Database.Reading — reading the tables of a database.

A running SELECT works on a database of which it reads one table.  Its subqueries are SELECTs of
their own on the same database: each is run when its values are first needed and never again while
the outer SELECT runs.  A subquery keeps its values to itself, so the subqueries inside it are run
once for each run of it.

## §A — running SELECTs.
## §B — subqueries.
## §C — hosts.
## §D — readings without a trace of their own.
-/
import TableQuery.Database.Basic
import TableQuery.Reading.Cursor
import TableQuery.Statement.Nodes

namespace TableQuery

/-! ## §A — running SELECTs -/

/-- The state of a running SELECT: the database, the place of its table, what is still to come of
it, the values of the subqueries, and the plan once there is one. -/
structure Running where
  db : Database
  place : Nat := 0
  source : Source := .closed
  answers : List (Place × Deferred) := []
  plan : Option Plan := none

namespace Running

/-- A computation on the database alone. -/
def onDatabase {α : Type} (x : Run Database α) : Run Running α :=
  ExceptT.mk do
    let r ← get
    let (answer, db) := x.outcome r.db
    set { r with db }
    return answer

/-- Changes the database. -/
def modifyDatabase (f : Database → Database) : StateM Running Unit :=
  modify fun r => { r with db := f r.db }

/-! ## §B — subqueries -/

/-- The column whose value a subquery contributes: the column of its first item, if the item is
one; otherwise the first column of each row. -/
def contributing (s : Select) : String :=
  match s.columns with
  | c :: _ =>
    match c.expression with
    | .column name => Expr.lastPart name
    | _ => "*"
  | [] => "*"

/-- The subquery at a place, as far as it is known. -/
def deferred (r : Running) (place : Place) (s : Select) : Deferred :=
  match r.answers.find? (·.1 == place) with
  | some (_, d) => d
  | none => { column := contributing s }

/-- **The values of a subquery**, which `run` finds out on the first need. -/
def members (run : Select → Run Database (List Record)) (place : Place) (s : Select) :
    Run Running (List Value) := do
  let known := (← get).deferred place s
  let d ← known.fill (onDatabase (run s))
  modify fun r => { r with answers := (place, d) :: r.answers.filter (·.1 != place) }
  return d.values.getD []

/-! ## §C — hosts -/

/-- Beginning to read the table. -/
def read (c : Collation) (s : Select) : Run Running Unit := do
  let r ← get
  let (answer, t) := (r.db.table r.place).read c s
  set { r with db := r.db.setTable r.place t }
  let source ← liftExcept answer
  modify fun r => { r with source }

/-- Pulling an item of the table. -/
def pull : Run Running (Option Item) := do
  let r ← get
  let p := (r.db.table r.place).pull r.source
  let db := r.db.setTable r.place p.table
  let db := match p.remark with
    | some event => db.log .warning .csv event
    | none => db
  set { r with db, source := p.source }
  liftExcept p.answer

/-- Giving the reading up. -/
def close : StateM Running Unit :=
  modify fun r =>
    { r with
      db := r.db.setTable r.place ((r.db.table r.place).close r.source)
      source := .closed }

/-- A remark on the reading of a table under a name. -/
def note (name : String) : Remark → StateM Running Unit
  | .planned p => do
    modify fun r => { r with plan := some p }
    modifyDatabase fun db =>
      (db.log .debug .reading
        ("SELECT on " ++ name ++ ": " ++ p.strategy.name ++ " (" ++ p.reason ++ ")")).count
        (.strategy p.strategy.name)
  | .scanned => modifyDatabase fun db => db.count (.scanned name)
  | .breached =>
    modifyDatabase fun db =>
      (db.log .warning .reading ("Virtual table " ++ name ++ " violated its contract")).count
        (.violations name)

/-- How many items a reading pulls at most. -/
def patience : StateM Running Nat := do
  let r ← get
  return (r.db.table r.place).patience

/-- The evaluation of expressions whose subqueries `run` carries out. -/
def evaluator (run : Select → Run Database (List Record)) (c : Collation) : Evaluator Running where
  collation := c
  members := members run

/-- **What a SELECT over a table runs on.** -/
def host (name : String) (ev : Evaluator Running) : Host Running where
  name := name
  evaluator := ev
  read := read ev.collation
  pull := pull
  close := close
  note := note name
  patience := patience

/-- The collation of a table: its own, or that of the database. -/
def collationOf (db : Database) (place : Nat) : Collation :=
  (db.table place).collation.getD db.collation

/-- **The results of a SELECT over a single table** outside any database, where subqueries have no
meaning and nothing is counted. -/
def alone (name : String) (t : Table) (c : Collation) (s : Select) :
    (List Record × Option Error) × Running :=
  ((host name { collation := c }).results s).run
    { db := { tables := [t], telemetry := { counting := false } } }

end Running

/-! ## §D — readings without a trace of their own -/

namespace Database
open Running

/-- The result rows of a SELECT whose subqueries `run` carries out. -/
def resultsBy (run : Select → Run Database (List Record)) (s : Select) :
    Run Database (List Record) := do
  let db ← get
  let place ← liftExcept (db.find s.table)
  let h := host s.table (evaluator run (collationOf db place))
  let ((rows, fault), r) := (h.results s).run { db, place }
  set r.db
  match fault with
  | none => return rows
  | some e => throw e

/-- **The result rows of a SELECT**, subqueries carried out to the given depth. -/
def resultsTo : Nat → Select → Run Database (List Record)
  | 0, _ => throw .unfinished
  | depth + 1, s => resultsBy (resultsTo depth) s

/-- The result rows of the subqueries of a tree, which cannot be nested deeper than it has nodes. -/
def subqueries (n : Node) : Select → Run Database (List Record) :=
  resultsTo ((n.nodes true).length + 1)

end Database
end TableQuery

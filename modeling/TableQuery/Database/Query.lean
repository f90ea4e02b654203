/-
# TableQuery.Database.Query — SELECT statements on a database.

A query is handed out row by row as a `Selection`.  Nothing is read before its first row is asked
for.  A selection that was asked at all leaves one span and one count when it ends, whether at its
last row, by a failure, or because it was given up; one that was never asked leaves none.

## §A — texts.
## §B — selections.
## §C — asking and giving up.
## §D — queries.
-/
import TableQuery.Database.Reading
import TableQuery.Sql.Meaning

namespace TableQuery
namespace Database

/-! ## §A — texts -/

/-- The verb under which a statement is counted. -/
def countStatement (verb : String) (ok : Bool) (db : Database) : Database :=
  (db.count (.queries verb ok)).count (.latency verb)

/-- **Reading a statement**, in a span of its own. -/
def parse (sql : String) : Run Database Statement := do
  let span := Span.start "vdb.parse" [("vdb.dialect", .text (← get).dialect)]
  match Statement.ofText sql with
  | .ok s => do
    modify fun db =>
      (db.log .debug .parser ("Parsed " ++ s.kindName ++ " on table " ++ s.table)).span span
    return s
  | .error e => do
    modify fun db => db.span { span with failed := true }
    throw e

end Database

/-! ## §B — selections -/

/-- How far a selection is. -/
inductive Selection.Progress where
  | waiting
  /-- Somewhere in the reading of the table at a place. -/
  | running (place : Nat) (stage : Host.Stage) (source : Source)
      (answers : List (Place × Deferred))
  | over

/-- A SELECT that is handed out row by row, with the number of rows so far. -/
structure Selection where
  statement : Select
  progress : Selection.Progress := .waiting
  delivered : Nat := 0

namespace Selection

/-- What the statement runs on, for a table at a place. -/
def host (q : Selection) (db : Database) (place : Nat) : Host Running :=
  let run := Database.subqueries (.statement (.select q.statement))
  Running.host q.statement.table (Running.evaluator run (Running.collationOf db place))

/-! ## §C — asking and giving up -/

/-- The record that a selection leaves. -/
def trace (q : Selection) (ok : Bool) (db : Database) : Database :=
  let attributes := [("vdb.table", Value.text q.statement.table)]
  (db.span (Span.ofRows "vdb.select" attributes q.delivered !ok)).countStatement "select" ok

/-- The end of a selection. -/
def finish (q : Selection) (ok : Bool) : StateM Database Selection := do
  modify (q.trace ok)
  return { q with progress := .over }

/-- Asks a reading for its next row. -/
def ask (q : Selection) (place : Nat) (stage : Host.Stage) (source : Source)
    (answers : List (Place × Deferred)) :
    StateM Database (Except Error (Option Record) × Selection) := do
  let db ← get
  let (answer, r) :=
    ((q.host db place).next q.statement stage).outcome { db, place, source, answers }
  set r.db
  match answer with
  | .error e => return (.error e, ← q.finish false)
  | .ok none => return (.ok none, ← q.finish true)
  | .ok (some (row, stage)) =>
    return (.ok (some row),
      { q with
        progress := .running place stage r.source r.answers
        delivered := q.delivered + 1 })

/-- **Asking for the next row** — none when there is no more. -/
def next (q : Selection) : StateM Database (Except Error (Option Record) × Selection) := do
  match q.progress with
  | .over => return (.ok none, q)
  | .running place stage source answers => q.ask place stage source answers
  | .waiting =>
    match (← get).find q.statement.table with
    | .error e => return (.error e, ← q.finish false)
    | .ok place => q.ask place .fresh .closed []

/-- **Giving a selection up.** -/
def close (q : Selection) : StateM Database Selection := do
  match q.progress with
  | .running place _ source _ => do
    modify fun db => db.setTable place ((db.table place).close source)
    q.finish true
  | _ => return { q with progress := .over }

/-- Asks for rows up to `n`, one after the other, none standing for a row that is missing. -/
def take : Nat → Selection → StateM Database (Except Error (List (Option Record)) × Selection)
  | 0, q => return (.ok [], q)
  | n + 1, q => do
    match ← q.next with
    | (.error e, q) => return (.error e, q)
    | (.ok row, q) => do
      let (rows, q) ← take n q
      return ((row :: ·) <$> rows, q)

/-- The rows up to the end; `patience` bounds their number. -/
def restTo : Nat → Selection → StateM Database (Except Error (List Record))
  | 0, _ => return .error .unfinished
  | patience + 1, q => do
    match ← q.next with
    | (.error e, _) => return .error e
    | (.ok none, _) => return .ok []
    | (.ok (some row), q) => return (row :: ·) <$> (← restTo patience q)

/-- How many rows a selection gives at most. -/
def patience (q : Selection) (db : Database) : Nat :=
  match db.find? q.statement.table with
  | some place => (db.table place).patience
  | none => 1

/-- **All rows of a selection.** -/
def all (q : Selection) : Run Database (List Record) :=
  ExceptT.mk do restTo (q.patience (← get)) q

end Selection

/-! ## §D — queries -/

namespace Database

/-- The selection of a SELECT, whose table has to be there. -/
def select (s : Select) (params : Parameters) : Run Database Selection := do
  let _ ← liftExcept ((← get).find s.table)
  return { statement := s.bind params }

/-- **The selection of a text**, which has to be a SELECT. -/
def query (sql : String) (params : Parameters) : Run Database Selection := do
  match ← parse sql with
  | .select s => select s params
  | s => throw (.unsupported (.queryOf s.keyword))

/-- All rows of a query. -/
def queryAll (sql : String) (params : Parameters) : Run Database (List Record) := do
  (← query sql params).all

/-- All rows of a tree, which has to be a SELECT. -/
def selectNode (n : Node) (params : Parameters) : Run Database (List Record) := do
  match n with
  | .statement (.select s) => (← select s params).all
  | .statement s => throw (.unsupported (.queryOf s.keyword))
  | n => throw (.evaluation (.notStatement n.kindName))

/-- **The first row of a query**, which is given up after it. -/
def queryOne (sql : String) (params : Parameters) : Run Database (Option Record) := do
  let q ← query sql params
  ExceptT.mk do
    let (answer, q) ← q.next
    let _ ← q.close
    return answer

/-- The first column of the first row; NULL when there is none. -/
def queryField (sql : String) (params : Parameters) : Run Database Value := do
  match ← queryOne sql params with
  | some row => return row.first
  | none => return .null

/-- The first column of every row. -/
def queryColumn (sql : String) (params : Parameters) : Run Database (List Value) := do
  return (← queryAll sql params).map Record.first

end Database
end TableQuery

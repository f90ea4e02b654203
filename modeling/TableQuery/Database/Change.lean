/-
# TableQuery.Database.Change — INSERT, UPDATE and DELETE on a database.

A statement that changes a table is bound and carried out in one go, and answers how many rows it
touched.  INSERT evaluates and inserts row after row.  UPDATE and DELETE first find the ids of all
rows that satisfy the condition and only then change the table, so that no row is met in a state
that the statement itself made.

## §A — the surroundings of a change.
## §B — INSERT.
## §C — UPDATE and DELETE.
## §D — statements.
## §E — rows given by name.
-/
import TableQuery.Database.Query
import TableQuery.Sql.Quote

namespace TableQuery
namespace Database
open Running

/-! ## §A — the surroundings of a change -/

/-- A computation on expressions, whose subqueries are run afresh. -/
def evaluating {α : Type} (x : Run Running α) : Run Database α :=
  ExceptT.mk do
    let (answer, r) := x.outcome { db := ← get }
    set r.db
    return answer

/-- The evaluation of the expressions of a statement about the table at a place. -/
def evaluatorFor (s : Statement) (place : Nat) (db : Database) : Evaluator Running :=
  evaluator (subqueries (.statement s)) (collationOf db place)

/-- A step of the table at a place. -/
def onTable {α : Type} (place : Nat) (step : Table → Except Error α × Table) : Run Database α := do
  let (answer, t) := step ((← get).table place)
  modify fun db => db.setTable place t
  liftExcept answer

/-! ## §B — INSERT -/

/-- The values of expressions on no row, the first of them the `n`-th. -/
def valuesFrom (ev : Evaluator Running) (row : Nat) : Nat → List Expr → Run Running (List Value)
  | _, [] => return []
  | n, e :: es => do
    let v ← ev.evaluate [] [n, row] e
    return v :: (← valuesFrom ev row (n + 1) es)

/-- Values as a row: under the column names, or numbered from zero when there are none. -/
def insertedRow (columns : List String) (values : List Value) : Record :=
  if columns.isEmpty then Record.numbered values
  else Record.ofPairs ((columns.map Key.name).zip values)

/-- Inserts a row into the table at a place and keeps its id. -/
def insertInto (place : Nat) (row : Record) : Run Database Unit := do
  let id ← onTable place (·.insert row)
  modify fun db =>
    let db := match (db.table place).keptRows? with
      | some _ => db.log .debug .kept ("Inserted row " ++ Seen.shownId id)
      | none => db
    { db with lastId := id }

/-- Evaluates and inserts rows in turn, all in one surrounding of subqueries. -/
def insertRows (ev : Evaluator Running) (place : Nat) (columns : List String) :
    Nat → List (List Expr) → Run Running Unit
  | _, [] => return ()
  | n, row :: rest => do
    let values ← valuesFrom ev n 0 row
    onDatabase (insertInto place (insertedRow columns values))
    insertRows ev place columns (n + 1) rest

/-- **INSERT**, answered with the number of rows. -/
def insert (s : Insert) (place : Nat) : Run Database Int := do
  let ev := evaluatorFor (.insert s) place (← get)
  evaluating (insertRows ev place s.columns 0 s.rows)
  modify fun db =>
    db.log .debug .database
      ("Inserted " ++ toString s.rows.length ++ " rows into " ++ s.table)
  return s.rows.length

/-! ## §C — UPDATE and DELETE -/

/-- Refuses a change without a condition where that is the rule. -/
def guard (s : Statement) (condition : Option Expr) : Run Database Unit := do
  if (← get).guarded && condition.isNone then throw (.noCondition s.keyword)

/-- The ids of the rows that satisfy a condition. -/
def matchingIds (s : Statement) (place : Nat) (condition : Option Expr) :
    Run Database (List Value) := do
  let db ← get
  let h := Running.host s.table (evaluatorFor s place db)
  let (answer, r) := (h.matchingIds (Select.scan s.table condition)).outcome { db, place }
  set r.db
  let ids ← liftExcept answer
  modify fun db =>
    db.log .debug .database ("Matched " ++ toString ids.length ++ " rows in " ++ s.table)
  return ids

/-- Changes the rows that satisfy a condition, when there are any. -/
def changeMatching (s : Statement) (place : Nat) (condition : Option Expr)
    (change : List Value → Table → Except Error Int × Table) : Run Database Int := do
  let ids ← matchingIds s place condition
  if ids.isEmpty then return 0
  onTable place (change ids)

/-- Refuses assignments that read a column. -/
def checkConstant (assignments : List (String × Expr)) : Run Database Unit :=
  match assignments.find? (·.2.readsColumn) with
  | some (column, _) => throw (.unsupported (.columnInSet column))
  | none => return ()

/-- **UPDATE**, answered with the number that the table gives. -/
def update (s : Update) (place : Nat) : Run Database Int := do
  guard (.update s) s.condition
  checkConstant s.assignments
  let ev := evaluatorFor (.update s) place (← get)
  let values ← evaluating (valuesFrom ev 0 0 (s.assignments.map (·.2)))
  let changes := Record.ofPairs ((s.assignments.map fun a => Key.name a.1).zip values)
  changeMatching (.update s) place s.condition fun ids t => t.update ids changes

/-- **DELETE**, answered with the number that the table gives. -/
def delete (s : Delete) (place : Nat) : Run Database Int := do
  guard (.delete s) s.condition
  changeMatching (.delete s) place s.condition fun ids t => t.delete ids

/-! ## §D — statements -/

/-- Carries a statement out. -/
def perform (s : Statement) (params : Parameters) : Run Database Int := do
  let place ← liftExcept ((← get).find s.table)
  match s.bind params with
  | .insert s => insert s place
  | .update s => update s place
  | .delete s => delete s place
  | .select _ => throw (.unsupported .executeSelect)

/-- Carries a statement out in a span and counts it. -/
def traced (s : Statement) (params : Parameters) : Run Database Int :=
  ExceptT.mk do
    let answer ← (perform s params).run
    let span := Span.start "vdb.execute"
      [("vdb.statement", .text s.verb), ("vdb.table", .text s.table)]
    modify fun db =>
      match answer with
      | .ok n => (db.countStatement s.verb true).span (span.withAttribute "vdb.affected_rows" (.int n))
      | .error _ => (db.countStatement s.verb false).span { span with failed := true }
    return answer

/-- Counts the rows that a statement touched, which may not be fewer than none. -/
def countAffected (verb : String) (n : Int) : Run Database Unit := do
  if (← get).telemetry.counting then
    modify fun db => db.count (.affected verb) (max n 0)
    if n < 0 then throw .negativeIncrement

/-- **Carrying out a statement** that changes a table. -/
def execute (s : Statement) (params : Parameters) : Run Database Int := do
  match s with
  | .select _ => throw (.unsupported .executeSelect)
  | s =>
    let n ← traced s params
    countAffected s.verb n
    return n

/-- Carrying out any tree, which has to be a statement. -/
def executeNode (n : Node) (params : Parameters) : Run Database Int :=
  match n with
  | .statement s => execute s params
  | n => throw (.evaluation (.notStatement n.kindName))

/-- Carrying out a text. -/
def executeText (sql : String) (params : Parameters) : Run Database Int := do
  execute (← parse sql) params

/-! ## §E — rows given by name -/

/-- The statement that inserts a row with some columns. -/
def insertText (table : String) (columns : List String) : String :=
  "INSERT INTO " ++ quoteName table ++ " (" ++ ", ".intercalate (columns.map quoteName) ++
    ") VALUES (" ++ ", ".intercalate (columns.map fun _ => "?") ++ ")"

/-- **Inserting a row** given as columns and values, answered with the id of the row. -/
def insertRecord (table : String) (data : List (String × Value)) : Run Database Value := do
  if data.isEmpty then throw .noColumns
  let _ ← executeText (insertText table (data.map (·.1))) (.list (data.map (·.2)))
  return (← get).lastId

end Database
end TableQuery

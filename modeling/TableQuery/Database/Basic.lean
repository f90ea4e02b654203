/-
# TableQuery.Database.Basic — a database: its tables and their names.

A database holds tables and gives them names.  One table may be registered under several names and
then goes by the last one.  Besides its tables a database has a default collation, a rule about
changes without a condition, the id of the row that was inserted last, and a record of its own work.

## §A — databases.
## §B — tables by reference.
## §C — tables by name.
## §D — remarks.
-/
import TableQuery.Table.Basic

namespace TableQuery

/-! ## §A — databases -/

/-- A database.  `tables` holds every table that was ever registered, and `names` refers to them by
place; `guarded` refuses UPDATE and DELETE without a condition. -/
structure Database where
  tables : List Table := []
  names : List (String × Nat) := []
  collation : Collation := .binary
  guarded : Bool := true
  dialect : String := "sqlite"
  lastId : Value := .null
  telemetry : Telemetry := {}
  deriving Repr

namespace Database

/-! ## §B — tables by reference -/

/-- The table at a place. -/
def table (db : Database) (place : Nat) : Table := db.tables.getD place {}

/-- Puts a table in its place. -/
def setTable (db : Database) (place : Nat) (t : Table) : Database :=
  { db with tables := db.tables.set place t }

/-- Takes a table in, without a name. -/
def addTable (db : Database) (t : Table) : Database × Nat :=
  ({ db with tables := db.tables ++ [t] }, db.tables.length)

/-! ## §C — tables by name -/

/-- The place of the table under a name. -/
def find? (db : Database) (name : String) : Option Nat :=
  (db.names.find? (·.1 == name)).map (·.2)

/-- The place of the table under a name, which has to be there. -/
def find (db : Database) (name : String) : Except Error Nat :=
  match db.find? name with
  | some place => .ok place
  | none => .error (.unknownTable name)

/-- Whether a table is registered under a name. -/
def has (db : Database) (name : String) : Bool := (db.find? name).isSome

/-- The names in use, sorted. -/
def sortedNames (db : Database) : List String :=
  (db.names.map (·.1)).mergeSort fun a b => decide (a ≤ b)

/-- Writes a name for a place. -/
def setName : List (String × Nat) → String → Nat → List (String × Nat)
  | [], name, place => [(name, place)]
  | (n, p) :: rest, name, place =>
    if n = name then (n, place) :: rest else (n, p) :: setName rest name place

/-- The rows of the kept tables by sorted name. -/
def stored (db : Database) : List (String × List Row) :=
  db.sortedNames.filterMap fun name => do
    let place ← db.find? name
    let rows ← (db.table place).keptRows?
    return (name, rows)

/-! ## §D — remarks -/

/-- Writes a log record. -/
def log (db : Database) (level : Level) (logger : Logger) (event : String) : Database :=
  { db with telemetry := db.telemetry.record { level, logger := logger.name, event } }

/-- Counts. -/
def count (db : Database) (s : Sample) (n : Int := 1) : Database :=
  { db with telemetry := db.telemetry.count s n }

/-- Records a span that has ended. -/
def span (db : Database) (s : Span) : Database :=
  { db with telemetry := db.telemetry.span s }

/-- **Registration** of a table under a name, in the place of the one that had it. -/
def register (name : String) (place : Nat) : Run Database Unit := do
  if name.isEmpty then throw .emptyTableName
  modify fun db =>
    let t := { db.table place with name }
    let db := { db.setTable place t with names := setName db.names name place }
    db.log .debug .database ("Registered table " ++ name ++ " (" ++ t.kindName ++ ")")

/-- Registration of a new table. -/
def registerNew (name : String) (t : Table) : Run Database Unit := do
  let (db, place) := (← get).addTable t
  set db
  register name place

/-- Registration of a registered table under a further name. -/
def registerAgain (name known : String) : Run Database Unit := do
  register name (← liftExcept ((← get).find known))

/-- Takes a name out of use. -/
def unregister (name : String) : Run Database Unit := do
  let _ ← liftExcept ((← get).find name)
  modify fun db => { db with names := db.names.filter (·.1 != name) }

/-- What was asked of the scripted tables, in the order of the tables, each to be told once. -/
def takeEvents (db : Database) : List Event × Database :=
  (db.tables.flatMap Table.events, { db with tables := db.tables.map Table.forgetful })

end Database
end TableQuery

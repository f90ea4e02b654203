/-
# TableQuery.Telemetry — counters, spans and the log.

What the engine records about its own work: counters by sample, spans of traced work in the order in
which they ended, and log records from a threshold on.  A counter that was touched is there even
while it is zero.

## §A — log records.
## §B — samples.
## §C — spans.
## §D — the whole.
-/
import TableQuery.Error
import TableQuery.Value.Record

namespace TableQuery

/-! ## §A — log records -/

/-- How grave a log record is. -/
inductive Level where
  | debug | info | warning | error | critical
  deriving DecidableEq, Repr

namespace Level

/-- The rank of a level. -/
def rank : Level → Nat
  | debug => 10
  | info => 20
  | warning => 30
  | error => 40
  | critical => 50

/-- The name of a level. -/
def name : Level → String
  | debug => "debug"
  | info => "info"
  | warning => "warning"
  | error => "error"
  | critical => "critical"

/-- All levels from the least to the gravest. -/
def all : List Level := [debug, info, warning, error, critical]

/-- The level of a name, however its letters are written. -/
def ofName? (s : String) : Option Level :=
  let spelled := String.ofList (s.toList.map Char.toLower)
  if spelled = "warn" then some warning
  else if spelled = "fatal" then some critical
  else all.find? (·.name == spelled)

end Level

/-- The parts of the engine that write log records. -/
inductive Logger where
  | package
  | database
  | reading
  | parser
  | http
  | kept
  | csv
  deriving DecidableEq, Repr

/-- The name of the log of the whole engine. -/
def Logger.root : String := "virtual_db"

/-- The name of a part's log. -/
def Logger.name : Logger → String
  | package => root
  | database => root ++ ".application.virtual_database"
  | reading => root ++ ".application.select_executor"
  | parser => root ++ ".adapters.inbound.sql_parser"
  | http => root ++ ".adapters.inbound.rest_api"
  | kept => root ++ ".adapters.outbound.memory_table"
  | csv => root ++ ".adapters.outbound.csv_table"

/-- A log record: its level, the log it goes to, what happened, and further fields. -/
structure LogRecord where
  level : Level
  logger : String
  event : String
  fields : Record := []
  deriving Repr

/-- A log record as names and values, sorted by name; what every record has wins over its fields. -/
def LogRecord.entries (r : LogRecord) : List (String × Value) :=
  let own : Record :=
    [(.name "event", .text r.event), (.name "level", .text r.level.name),
     (.name "logger", .text r.logger)]
  let all := (r.fields.update own).filterMap fun (k, v) =>
    match k with
    | .name n => some (n, v)
    | .position _ => none
  all.mergeSort fun a b => decide (a.1 ≤ b.1)

/-- Whether a log belongs to the engine. -/
def Logger.isInside (name : String) : Bool :=
  name == root || (root ++ ".").isPrefixOf name

/-! ## §B — samples -/

/-- What is counted. -/
inductive Sample where
  /-- Statements that were run, by verb and by whether they went well. -/
  | queries (verb : String) (ok : Bool)
  | latency (verb : String)
  | strategy (name : String)
  | scanned (table : String)
  | violations (table : String)
  | affected (verb : String)
  deriving DecidableEq, Repr

namespace Sample

/-- The name of a sample. -/
def name : Sample → String
  | queries .. => "vdb_queries_total"
  | latency _ => "vdb_query_latency_seconds_count"
  | strategy _ => "vdb_select_strategy_total"
  | scanned _ => "vdb_rows_scanned_total"
  | violations _ => "vdb_contract_violations_total"
  | affected _ => "vdb_dml_rows_affected_total"

/-- The labels of a sample, sorted. -/
def labels : Sample → List (String × String)
  | queries verb ok => [("statement", verb), ("status", if ok then "ok" else "error")]
  | latency verb => [("statement", verb)]
  | strategy name => [("strategy", name)]
  | scanned table => [("table", table)]
  | violations table => [("table", table)]
  | affected verb => [("statement", verb)]

/-- The texts by which samples are sorted. -/
def sortKey (s : Sample) : List String := s.name :: s.labels.flatMap fun (k, v) => [k, v]

end Sample

/-! ## §C — spans -/

/-- A span of traced work that has ended. -/
structure Span where
  name : String
  attributes : List (String × Value) := []
  failed : Bool := false
  deriving Repr

namespace Span

/-- Sets an attribute; NULL sets none. -/
def withAttribute (s : Span) (key : String) (v : Value) : Span :=
  if v.isNull then s
  else
    { s with attributes :=
        if s.attributes.any (·.1 == key) then
          s.attributes.map fun kv => if kv.1 == key then (key, v) else kv
        else s.attributes ++ [(key, v)] }

/-- A span with attributes. -/
def start (name : String) (attributes : List (String × Value)) : Span :=
  attributes.foldl (fun s kv => s.withAttribute kv.1 kv.2) { name }

/-- The span of rows that were handed out. -/
def ofRows (name : String) (attributes : List (String × Value)) (count : Nat) (failed : Bool) :
    Span :=
  { (start name attributes).withAttribute "vdb.rows" (.int count) with failed }

/-- The attributes sorted by name. -/
def sorted (s : Span) : List (String × Value) :=
  s.attributes.mergeSort fun a b => decide (a.1 ≤ b.1)

/-- How the work ended. -/
def status (s : Span) : String := if s.failed then "ERROR" else "UNSET"

/-- What happened in the span. -/
def happenings (s : Span) : List String := if s.failed then ["exception"] else []

end Span

/-! ## §D — the whole -/

/-- What has been recorded.  Without `counting` no counter is kept; without a threshold no log. -/
structure Telemetry where
  counting : Bool := true
  counters : List (Sample × Int) := []
  spans : List Span := []
  threshold : Option Level := none
  log : List LogRecord := []
  deriving Repr

namespace Telemetry

/-- Adds to a counter. -/
def add : List (Sample × Int) → Sample → Int → List (Sample × Int)
  | [], s, n => [(s, n)]
  | (t, m) :: rest, s, n => if t = s then (t, m + n) :: rest else (t, m) :: add rest s n

/-- Counts. -/
def count (t : Telemetry) (s : Sample) (n : Int := 1) : Telemetry :=
  if t.counting then { t with counters := add t.counters s n } else t

/-- Records a span that has ended. -/
def span (t : Telemetry) (s : Span) : Telemetry := { t with spans := t.spans ++ [s] }

/-- Writes a log record unless its level is below the threshold. -/
def record (t : Telemetry) (r : LogRecord) : Telemetry :=
  match t.threshold with
  | some level => if level.rank ≤ r.level.rank then { t with log := t.log ++ [r] } else t
  | none => t

/-- The counters that were touched, sorted. -/
def samples (t : Telemetry) : List (Sample × Int) :=
  t.counters.mergeSort fun a b => !b.1.sortKey.lex a.1.sortKey fun s t => decide (s < t)

/-- The spans, each to be told once. -/
def takeSpans (t : Telemetry) : List Span × Telemetry := (t.spans, { t with spans := [] })

/-- The log records, each to be told once. -/
def takeLog (t : Telemetry) : List LogRecord × Telemetry := (t.log, { t with log := [] })

end Telemetry
end TableQuery

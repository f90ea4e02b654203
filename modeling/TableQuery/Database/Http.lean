/-
# TableQuery.Database.Http — requests over HTTP.

Four paths are served: two that tell the state of the service and the names of its tables, and two
that run a statement.  A request to run a statement carries JSON with the text and its parameters.
A failure of the query language is part of the answer; a table that is not there is not found; any
other failure goes through.

## §A — requests and replies.
## §B — bodies.
## §C — running statements.
## §D — paths.
-/
import TableQuery.Database.Change
import TableQuery.Value.Json

namespace TableQuery

/-! ## §A — requests and replies -/

/-- A request. -/
structure HttpRequest where
  method : String
  path : String
  body : String := ""
  deriving Repr

/-- A reply. -/
inductive HttpReply where
  | healthy
  | tables (names : List String)
  | rows (success : Bool) (message : String) (rows : List Record) (columns : List String)
  | affected (success : Bool) (message : String) (count : Int)
  | refused (status : Nat) (detail : String)
  /-- The body is not what the path takes. -/
  | unprocessable
  deriving Repr

namespace HttpReply

/-- The version of the service. -/
def version : String := "0.1.0"

/-- The status of a reply. -/
def status : HttpReply → Nat
  | refused status _ => status
  | unprocessable => 422
  | _ => 200

/-- Nothing is served at the path. -/
def notFound : HttpReply := refused 404 "Not Found"

/-- The path is served, but not for the method. -/
def notAllowed : HttpReply := refused 405 "Method Not Allowed"

end HttpReply

/-! ## §B — bodies -/

/-- What a body asks for: a statement and its parameters. -/
structure HttpStatement where
  sql : String
  params : Parameters := Parameters.none

/-- The parameters in a body: a list, or an object whose members are named parameters. -/
def HttpStatement.params? : Option Value → Option Parameters
  | none => some Parameters.none
  | some (.list vs) => some (.list vs)
  | some (.record fields) => some (.keyed (fields.map fun (k, v) => (.name k, v)))
  | some _ => none

/-- **What a body asks for**; a reply where it asks for nothing. -/
def HttpStatement.ofBody (body : String) : Except HttpReply HttpStatement :=
  match Json.read body.toList with
  | .error .tooManyDigits => .error (.refused 400 "There was an error parsing the body")
  | .error .malformed => .error .unprocessable
  | .ok (.record fields) =>
    match fields.lookup "sql", HttpStatement.params? (fields.lookup "params") with
    | some (.text sql), some params => .ok { sql, params }
    | _, _ => .error .unprocessable
  | .ok _ => .error .unprocessable

/-! ## §C — running statements -/

namespace HttpReply

mutual

/-- Whether a value holds no NaN and no infinity. -/
def isFinite : Value → Bool
  | .float x => !x.isNaN && x.toRat?.isSome
  | .list items => allFinite items
  | .record fields => fieldsFinite fields
  | _ => true

/-- Whether values hold no NaN and no infinity. -/
def allFinite : List Value → Bool
  | [] => true
  | v :: vs => isFinite v && allFinite vs

/-- Whether members hold no NaN and no infinity. -/
def fieldsFinite : List (String × Value) → Bool
  | [] => true
  | (_, v) :: rest => isFinite v && fieldsFinite rest

end

/-- The columns that are numbered and not named, which an answer may not have. -/
def unnamed (rows : List Record) : List Refusal :=
  (rows.zipIdx.flatMap fun (r, i) => r.filterMap fun (k, _) =>
    match k with
    | .position n => some ⟨["rows", toString i, toString n, "[key]"], "string_type"⟩
    | .name _ => none)

/-- The names of the columns of rows, in the order in which they first come. -/
def columnsOf (rows : List Record) : List String :=
  ((rows.flatMap fun r => r.filterMap fun (k, _) =>
    match k with
    | .name n => some n
    | .position _ => none)).eraseDups

/-- The reply with the rows of a query. -/
def ofRows (rows : List Record) : Except Error HttpReply :=
  if !(unnamed rows).isEmpty then .error (.invalid (unnamed rows))
  else if !rows.all (·.all fun kv => isFinite kv.2) then .error .notFinite
  else .ok (.rows true (toString rows.length ++ " rows") rows (columnsOf rows))

end HttpReply

namespace Database

/-- Answers a failure: of the query language by `failed`, after a note in the log; a table that is
not there is not found. -/
def answering (what : String) (x : Run Database HttpReply) (failed : String → HttpReply) :
    Run Database HttpReply :=
  ExceptT.mk do
    match ← x.run with
    | .ok r => return .ok r
    | .error (.unknownTable name) =>
      return .ok (.refused 404 (Error.unknownTable name).message)
    | .error e =>
      if e.isQueryError then
        modify fun db => db.log .info .http (what ++ " failed: " ++ e.message)
        return .ok (failed ("Error: " ++ e.message))
      else return .error e

/-- Runs a query. -/
def answerQuery (r : HttpStatement) : Run Database HttpReply := do
  answering "Query" (do liftExcept (HttpReply.ofRows (← queryAll r.sql r.params)))
    fun message => .rows false message [] []

/-- Runs a statement that changes a table. -/
def answerExecute (r : HttpStatement) : Run Database HttpReply :=
  answering "Statement" (do
    let n ← executeText r.sql r.params
    return .affected true (toString n ++ " rows affected") n)
    fun message => .affected false message 0

/-! ## §D — paths -/

/-- What is served at a path: the method, and the reply to a request. -/
def served (body : String) : List (String × String × Run Database HttpReply) :=
  let run (answer : HttpStatement → Run Database HttpReply) : Run Database HttpReply :=
    match HttpStatement.ofBody body with
    | .ok r => answer r
    | .error reply => pure reply
  [("/health", "GET", pure .healthy),
   ("/tables", "GET", return .tables (← get).sortedNames),
   ("/query", "POST", run answerQuery),
   ("/execute", "POST", run answerExecute)]

/-- A path without its query part and without slashes at its end. -/
def barePath (path : String) : String :=
  let s := path.toList.takeWhile fun c => c != '?' && c != '#'
  String.ofList (s.reverse.dropWhile (· == '/')).reverse

/-- **The reply to a request.** -/
def respond (r : HttpRequest) : Run Database HttpReply :=
  match (served r.body).find? (·.1 == barePath r.path) with
  | none => pure .notFound
  | some (_, method, reply) => if method = r.method then reply else pure .notAllowed

end Database
end TableQuery

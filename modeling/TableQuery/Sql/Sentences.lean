/-
# TableQuery.Sql.Sentences — whole statements.

The first word says which statement it is.  Statements that change rows are read in full; of the
others only the kind matters, and so they are read as far as it takes to tell them from a text that
is no statement.  What starts with no such word is a query or a phrase.

## §A — statements that change rows.
## §B — statements of other kinds.
## §C — any statement.
-/
import TableQuery.Sql.Queries

namespace TableQuery
namespace Sql
namespace Sentences

open Reader Operand Operators Queries

/-! ## §A — statements that change rows -/

/-- A table whose new name is a word that `can` be one. -/
def tableNamed (g : Readers) (can : String → Bool) : Reader Phrase :=
  table g can (g.query ⟨false, true, true⟩)

/-- A table with a name in the usual sense. -/
def usualTable (g : Readers) : Reader Phrase := tableNamed g Words.canRenameTable

/-- A word that has no effect, if it follows. -/
def droppedWord (keyword : String) : Reader (List Phrase) := do
  return dropping (← word keyword) keyword []

/-- RETURNING and what is returned, which has no effect. -/
def returning (g : Readers) : Reader (List Phrase) := do
  unless ← word "RETURNING" do return []
  match ← list g.phrase with
  | [] => failure
  | items => do
    if ← word "INTO" then let _ ← tablePart g true
    return [.clause "RETURNING" items]

/-- WHERE and its condition, if it follows. -/
def whereClause (g : Readers) : Reader (Option Phrase) := do
  unless ← word "WHERE" do return none
  return some (← need g.condition)

/-- ORDER BY behind its word, which has no effect. -/
def droppedOrder (g : Readers) : Reader Phrase := do
  return .clause "ORDER BY" ((← orderList g).map Ordered.phrase)

/-- LIMIT behind its word, which has no effect. -/
def droppedLimit (g : Readers) : Reader Phrase := do
  let (count, start, options) ← limit g
  return .clause "LIMIT" (count :: start.toList ++ options)

/-- ORDER BY and LIMIT behind a statement that changes rows; they have no effect. -/
def orderAndLimit (g : Readers) : Reader (List Phrase) := do
  let order ← if ← word "ORDER BY" then pure [← droppedOrder g] else pure []
  let limit ← if ← word "LIMIT" then pure [← droppedLimit g] else pure []
  return order ++ limit

/-- A table and what is joined to it, which has no effect. -/
def joinedTable (g : Readers) (table : Reader Phrase) : Reader (Phrase × List Phrase) := do
  let p ← table
  let ps ← joins g (usualTable g)
  return (p, dropping (!ps.isEmpty) "JOIN" ps)

/-- The columns of an INSERT in parentheses, unless a query stands in them. -/
def insertColumns (g : Readers) : Reader (List Phrase) := do
  let here ← get
  let holdsQuery ← attempt (do
    match ← query g ⟨true, false, true⟩ with
    | some _ => return some ()
    | none => return none)
  set here
  if holdsQuery.isSome then return []
  unless ← sign "(" do return []
  let columns ← list (do
    let some p ← orElse (value g) (orElse (enclosure g) (orElse (function g false)
      (nameOf true Words.canName))) | return none
    let _ ← word "AS"
    let _ ← type
    return some p)
  needSign ")"
  return columns

/-- What is done about a row that is in the way, behind its words. -/
def conflictAction (g : Readers) : Reader Unit := do
  if ← words ["ON", "CONSTRAINT"] then
    let _ ← need name
  else if ← sign "(" then skipBalanced
  let _ ← whereClause g
  if ← atEnd then return ()
  if ← words ["DO", "NOTHING"] then return ()
  let updates ← orM (words ["DO", "UPDATE"]) (word "UPDATE")
  if updates then
    let _ ← word "SET"
    let _ ← list g.equality
  else
    unless (← oneOf ["ABORT", "FAIL", "IGNORE", "REPLACE", "ROLLBACK"]).isSome do failure
  let _ ← whereClause g

/-- ON CONFLICT, which has no effect. -/
def onConflict (g : Readers) : Reader (List Phrase) := do
  unless ← orM (words ["ON", "CONFLICT"]) (words ["ON", "DUPLICATE", "KEY"]) do return []
  conflictAction g
  return [.clause "ON CONFLICT" []]

/-- OR and what is done instead, which has no effect. -/
def alternative : Reader (List Phrase) := do
  unless ← word "OR" do return []
  let action ← oneOf ["ABORT", "FAIL", "IGNORE", "REPLACE", "ROLLBACK"]
  return action.toList.map fun key => .clause ("OR " ++ key) []

/-- INSERT, behind its word. -/
def insert (g : Readers) : Reader Sentence := do
  let overwrite ← droppedWord "OVERWRITE"
  let ignore ← droppedWord "IGNORE"
  let instead ← alternative
  let _ ← word "INTO"
  let _ ← word "TABLE"
  let parts ← tableName g true
  let columns ← insertColumns g
  if columns.isEmpty && (← seesWord "AS") then
    let _ ← tableAlias Words.canRenameTable
  let returnedFirst ← returning g
  let default ← words ["DEFAULT", "VALUES"]
  let source ← match ← valueRows g with
    | some rows => pure (some rows)
    | none => do
      match ← query g ⟨true, false, true⟩ with
      | some p => some <$> furtherClauses g (usualTable g) (← setOperations g p)
      | none => pure none
  let conflict ← onConflict g
  let returnedLast ← returning g
  return .insert (.table parts none) columns source
    (overwrite ++ ignore ++ instead ++ returnedFirst ++ dropping default "DEFAULT VALUES" [] ++
      conflict ++ returnedLast)

/-- The parts of an UPDATE behind its table, in any order. -/
structure UpdateParts where
  assignments : List Phrase := []
  hasSource : Bool := false
  condition : Option Phrase := none
  dropped : List Phrase := []

/-- Further parts of an UPDATE; a later part stands in the place of an earlier one. -/
def updateParts (g : Readers) : Nat → UpdateParts → Reader UpdateParts
  | 0, u => pure u
  | fuel + 1, u => do
    match ← oneOf ["SET", "FROM", "WHERE", "ORDER BY", "LIMIT"] with
    | some "SET" => do updateParts g fuel { u with assignments := ← list g.equality }
    | some "FROM" => do
      let _ ← joinedTable g (usualTable g)
      updateParts g fuel { u with hasSource := true }
    | some "WHERE" => do updateParts g fuel { u with condition := some (← need g.condition) }
    | some "ORDER BY" => do
      updateParts g fuel { u with dropped := u.dropped ++ [← droppedOrder g] }
    | some _ => do
      updateParts g fuel { u with dropped := u.dropped ++ [← droppedLimit g] }
    | none => do
      if ← seesWord "RETURNING" then
        updateParts g fuel { u with dropped := u.dropped ++ (← returning g) }
      else return u

/-- UPDATE, behind its word. -/
def update (g : Readers) : Reader Sentence := do
  let (p, joined) ←
    joinedTable g (tableNamed g fun key => Words.canRenameTable key && key != "SET")
  let u ← updateParts g ((← get).length + 1) { dropped := joined }
  return .update p u.assignments u.hasSource u.condition u.dropped

/-- The table that a DELETE is about, and what is joined to it. -/
def deleteTarget (g : Readers) : Reader (Option Phrase × List Phrase) := do
  if ← word "FROM" then
    let (p, joined) ← joinedTable g (usualTable g)
    return (some p, joined)
  return (none, [])

/-- USING in a DELETE, which has no effect. -/
def deleteUsing (g : Readers) : Reader (List Phrase) := do
  unless ← word "USING" do return []
  let tables ← list ((some ·.1) <$> joinedTable g (usualTable g))
  return [.clause "USING" tables]

/-- DELETE, behind its word. -/
def delete (g : Readers) : Reader Sentence := do
  let tables ← if ← seesWord "FROM" then pure [] else list (some <$> usualTable g)
  let returnedFirst ← returning g
  let (p, joined) ← deleteTarget g
  let source ← deleteUsing g
  let condition ← whereClause g
  let returnedLast ← returning g
  let ordered ← orderAndLimit g
  return .delete p condition
    (dropping (!tables.isEmpty) "TABLES" tables ++ returnedFirst ++ joined ++ source ++
      returnedLast ++ ordered)

/-! ## §B — statements of other kinds -/

/-- Words whose statement is kept as a text and never read. -/
def commands : List String :=
  ["CALL", "EXECUTE", "EXPLAIN", "FETCH", "OPTIMIZE", "PREPARE", "RENAME", "REPLACE", "SHOW", "VACUUM"]

/-- Kinds of things that can be made and dropped. -/
def creatables : List String :=
  ["COLUMN", "CONSTRAINT", "DATABASE", "FOREIGN KEY", "FUNCTION", "INDEX", "NAMESPACE", "PROCEDURE",
   "SCHEMA", "SEQUENCE", "TABLE", "TRIGGER", "VIEW"]

/-- IF EXISTS and IF NOT EXISTS. -/
def existence : Reader Unit := do
  unless ← words ["IF", "NOT", "EXISTS"] do
    let _ ← words ["IF", "EXISTS"]

/-- The statement that is kept as a text. -/
def command : Reader Sentence := do
  skipAll
  return .other "Command"

/-- The kind if every token was read, and otherwise a statement kept as a text. -/
def orCommand (kind : String) : Reader Sentence := do
  if ← atEnd then return .other kind
  command

/-- CREATE, behind its word. -/
def create (g : Readers) : Reader Sentence := do
  let _ ← orM (words ["OR", "REPLACE"]) (words ["OR", "ALTER"])
  let _ ← oneOf ["TEMP", "TEMPORARY"]
  let _ ← word "UNIQUE"
  match ← oneOf creatables with
  | none => command
  | some "TRIGGER" => command
  | some kind => do
    existence
    if kind == "INDEX" && (← seesWord "ON") then
      skipAll
      return .other "Create"
    let _ ← tableName g true
    skipAll
    return .other "Create"

/-- DROP, behind its word. -/
def drop (g : Readers) : Reader Sentence := do
  let _ ← oneOf ["TEMP", "TEMPORARY"]
  match ← oneOf creatables with
  | none => command
  | some _ => do
    existence
    let _ ← tableName g true
    let _ ← tableAlias fun _ => false
    let _ ← oneOf ["CASCADE", "RESTRICT"]
    return .other "Drop"

/-- ALTER, behind its word. -/
def alter (g : Readers) : Reader Sentence := do
  unless (← oneOf ["INDEX", "TABLE", "VIEW"]).isSome do return ← command
  existence
  let _ ← tableName g true
  match ← oneOf ["ADD", "ALTER", "DELETE", "DROP", "RENAME", "SET", "SWAP"] with
  | some _ => do
    if ← atEnd then return ← command
    skipAll
    return .other "Alter"
  | none => command

/-- TRUNCATE, behind its word. -/
def truncate (g : Readers) : Reader Sentence := do
  let _ ← oneOf ["DATABASE"]
  let _ ← word "TABLE"
  existence
  let _ ← list (some <$> tableName g true)
  let _ ← oneOf ["CASCADE", "RESTRICT"]
  orCommand "TruncateTable"

/-- The words of a kind of transaction. -/
def modes : Nat → Reader Unit
  | 0 => pure ()
  | fuel + 1 => do
    match ← peek with
    | some (.word _ key) =>
      if key == "NOT" || !Words.isKnown key then
        skip
        modes fuel
    | some (.sign ",") => do
      skip
      modes fuel
    | _ => return ()

/-- BEGIN, behind its word. -/
def transaction : Reader Sentence := do
  let _ ← oneOf ["DEFERRED", "IMMEDIATE", "EXCLUSIVE"]
  let _ ← oneOf ["TRANSACTION", "WORK"]
  modes (← get).length
  return .other "Transaction"

/-- The end of a transaction, behind its word. -/
def transactionEnd (kind : String) : Reader Sentence := do
  let _ ← oneOf ["TRANSACTION", "WORK"]
  if ← word "TO" then
    let _ ← word "SAVEPOINT"
    let _ ← name
  if ← word "AND" then
    let _ ← word "NO"
    let _ ← word "CHAIN"
  return .other kind

/-- An item behind SET: a name and what it is set to. -/
def setting (g : Readers) : Reader (Option Unit) := do
  let here ← get
  let left ← reference g
  if left.isNone then return none
  unless ← orM (sign "=") (orM (sign ":=") (word "TO")) do
    set here
    return none
  match ← g.sentence with
  | some _ => return some ()
  | none => do
    let _ ← need (nameOf true Words.canName)
    return some ()

/-- The statement that starts with the given word, if there is one; the word is taken. -/
def starting (g : Readers) : String → Option (Reader Sentence)
  | "INSERT" => some (insert g)
  | "UPDATE" => some (update g)
  | "DELETE" => some (delete g)
  | "CREATE" => some (create g)
  | "DROP" => some (drop g)
  | "ALTER" => some (alter g)
  | "TRUNCATE" => some (truncate g)
  | "BEGIN" => some transaction
  | "COMMIT" => some (transactionEnd "Commit")
  | "ROLLBACK" => some (transactionEnd "Rollback")
  | "PRAGMA" => some do
    let _ ← need g.phrase
    return .other "Pragma"
  | "ANALYZE" => some do
    if ← atEnd then return .other "Analyze"
    let _ ← word "TABLE"
    let _ ← tableName g true
    return .other "Analyze"
  | "DESC" | "DESCRIBE" => some do
    let _ ← oneOf creatables
    let _ ← oneOf ["ANALYZE", "EXTENDED", "FORMATTED", "HISTORY"]
    if ← seesOneOf ["INSERT", "UPDATE", "DELETE", "CREATE", "DROP", "ALTER"] then
      let _ ← g.sentence
    else
      let _ ← usualTable g
    return .other "Describe"
  | "ATTACH" => some do
    let _ ← word "DATABASE"
    existence
    let _ ← need g.phrase
    return .other "Attach"
  | "DETACH" => some do
    let _ ← word "DATABASE"
    existence
    let _ ← need g.phrase
    return .other "Detach"
  | "USE" => some do
    let _ ← oneOf ["DATABASE", "SCHEMA"]
    let _ ← usualTable g
    return .other "Use"
  | "KILL" => some do
    let _ ← oneOf ["CONNECTION", "QUERY"]
    let _ ← need (value g)
    return .other "Kill"
  | "SET" => some do
    let _ ← list (setting g)
    orCommand "Set"
  | "MERGE" => some do
    let _ ← word "INTO"
    let _ ← usualTable g
    needWord "USING"
    skipAll
    return .other "Merge"
  | "COMMENT" => some do
    let _ ← word "ON"
    if ← seesOneOf creatables then
      skipAll
      return .other "Comment"
    command
  | "CACHE" | "UNCACHE" | "COPY" => some do
    let _ ← tableName g true
    command
  | "GRANT" | "REVOKE" | "LOAD" => some command
  | _ => none

/-! ## §C — any statement -/

/-- A statement that starts with a phrase or a query. -/
def plain (g : Readers) : Reader (Option Sentence) := do
  if ← seesWord "WITH" then return some (← withCommon g)
  let p ← match ← phrase g with
    | some p => some <$> setOperations g p
    | none => query g {}
  match p with
  | some p => return some (.phrase (← furtherClauses g (usualTable g) p))
  | none => return none

/-- **A statement.** -/
def sentence (g : Readers) : Reader (Option Sentence) := do
  match ← peek with
  | none => return none
  | some (.semicolon _) => do
    skip
    return some (.other "Semicolon")
  | some (.word _ key) =>
    match starting g key with
    | some rest => do
      skip
      return some (← rest)
    | none => plain g
  | some _ => plain g

/-- A statement at the start of a text, where some words begin a statement kept as a text. -/
def first (g : Readers) : Reader (Option Sentence) := do
  match ← get with
  | .word _ key :: rest =>
    if commands.contains key then return some (← command)
    if key == "IF" && !(rest.head?).any (·.isSign "(") then return some (← command)
    sentence g
  | _ => sentence g

end Sentences
end Sql
end TableQuery

/-
# TableQuery.Sql.Queries — queries and their clauses.

A query names columns and a source; its clauses may follow in any order, each once.  What is joined
to the source, and clauses that are not carried out, are read all the same, so that a later stage can
say which of them is missing.

## §A — tables.
## §B — clauses.
## §C — joins.
## §D — queries.
-/
import TableQuery.Sql.Operators

namespace TableQuery
namespace Sql
namespace Queries

open Reader Operand Operators

/-! ## §A — tables -/

/-- A name with perhaps a type, as it stands in a list of columns. -/
def typedName : Reader (Option Phrase) := do
  let some n ← nameOf true Words.canName | return none
  let _ ← word "AS"
  let _ ← type
  return some n

/-- Columns in parentheses behind a new name; nothing is taken where no name stands in them. -/
def aliasColumns : Reader Bool := do
  let here ← get
  unless ← sign "(" do return false
  match ← list typedName with
  | [] => do
    set here
    return false
  | _ => do
    needSign ")"
    return true

/-- The new name of a table: AS and any name, or a word that `can` be one, or a text; columns may
follow. -/
def tableAlias (can : String → Bool) : Reader (Option Phrase) := do
  let any ← word "AS"
  let n ← orElse (nameOf any can) stringName
  let _ ← aliasColumns
  return n

/-- A function in the place of a table. -/
def tableFunction (g : Readers) : Reader (Option Phrase) := do
  match ← get with
  | .word text key :: .sign "(" :: _ =>
    unless Words.canCall key do return none
    skip
    skip
    return some (← application g text false true)
  | .quoted text :: .sign "(" :: _ =>
    skip
    skip
    return some (← application g text true true)
  | _ => return none

/-- A part of the name of a table. -/
def tablePart (g : Readers) (schema : Bool) : Reader (Option Phrase) :=
  let plain := orElse name stringName
  if schema then plain else orElse (tableFunction g) plain

/-- The further parts of the name of a table. -/
def tablePartsFrom (g : Readers) (schema : Bool) : Nat → Reader (List Phrase)
  | 0 => pure []
  | fuel + 1 => do
    unless ← sign "." do return []
    let part ← need (tablePart g schema)
    return part :: (← tablePartsFrom g schema fuel)

/-- The name of a table, in parts with points between them. -/
def tableName (g : Readers) (schema : Bool) : Reader (List Phrase) := do
  let first ← need (tablePart g schema)
  return first :: (← tablePartsFrom g schema (← get).length)

/-- A row of values: items in parentheses, or one item alone. -/
def row (g : Readers) : Reader (Option Phrase) := do
  if ← sign "(" then
    let items ← list (do
      if ← seesWord "DEFAULT" then
        skip
        return some (.other "Var" "DEFAULT" [])
      g.phrase)
    needSign ")"
    return some (.tuple items)
  match ← g.phrase with
  | some p => return some (.tuple [p])
  | none => return none

/-- Rows of values behind VALUES, all of it perhaps in parentheses. -/
def valueRows (g : Readers) : Reader (Option Phrase) := do
  let held ← match ← get with
    | .sign "(" :: .word _ "VALUES" :: _ => do skip; pure true
    | _ => pure false
  unless ← orM (word "VALUES") (words ["FORMAT", "VALUES"]) do return none
  match ← list (row g) with
  | [] => failure
  | rows => do
    let n ← tableAlias Words.canRenameTable
    if held then
      needSign ")"
      if n.isNone then let _ ← tableAlias Words.canRenameTable
    return some (.rows rows)

/-- Something lateral: a query in parentheses, or a function or a name, with new names. -/
def lateral (g : Readers) : Reader (Option Phrase) := do
  unless ← word "LATERAL" do return none
  match ← g.query ⟨false, true, true⟩ with
  | some q => do
    let _ ← tableAlias Words.canRenameTable
    return some (.other "Lateral" "LATERAL" [q])
  | none => do
    let view ← word "VIEW"
    if view then let _ ← word "OUTER"
    let f ← need (orElse (tableFunction g) name)
    if view then
      let _ ← name
      if ← word "AS" then let _ ← list name
    else
      let _ ← tableAlias Words.canRenameTable
    return some (.other "Lateral" "LATERAL" [f])

/-- What may stand behind the name of a table: which index to take, and hints in parentheses. -/
def tableHints (g : Readers) : Reader Unit := do
  if ← word "INDEXED BY" then
    let _ ← tableName g false
  else
    let _ ← words ["NOT", "INDEXED"]
  match ← get with
  | .word _ "WITH" :: .sign "(" :: _ => do
    skip
    skip
    skipBalanced
  | _ => return ()

/-- **What can be read**: something lateral, rows of values, a query in parentheses, or a table with
perhaps a new name, which is a word that `can` be one. -/
def table (g : Readers) (can : String → Bool) (query : Reader (Option Phrase)) : Reader Phrase := do
  if let some p ← lateral g then return p
  if let some p ← valueRows g then return p
  if let some p ← query then return p
  let parts ← tableName g false
  let _ ← sign "*"
  let n ← tableAlias can
  tableHints g
  return .table parts n

/-! ## §B — clauses -/

/-- A clause that has no effect, if it was read. -/
def dropping (read : Bool) (keyword : String) (parts : List Phrase) : List Phrase :=
  if read then [.clause keyword parts] else []

/-- The clauses of a query. -/
structure Clauses where
  joins : List Phrase := []
  hasLateral : Bool := false
  condition : Option Phrase := none
  grouping : Option (List Phrase) := none
  having : Option Phrase := none
  order : List Ordered := []
  limit : Option Phrase := none
  offset : Option Phrase := none
  /-- Clauses that have no effect. -/
  ignored : List Phrase := []

/-- What is grouped by. -/
def grouping (g : Readers) : Reader (List Phrase) := do
  let _ ← oneOf ["ALL", "DISTINCT"]
  let items ← list (do
    if (← oneOf ["CUBE", "ROLLUP", "GROUPING SETS"]).isSome then
      if ← sign "(" then skipBalanced
      return none
    g.condition)
  if ← orM (words ["WITH", "ROLLUP"]) (orM (words ["WITH", "CUBE"]) (words ["WITH", "TOTALS"])) then
    return items
  return items

/-- What may stand behind a number of rows. -/
def limitOptions : Reader (List Phrase) := do
  let percent ← orM (word "PERCENT") (sign "%")
  let _ ← oneOf ["ROW", "ROWS"]
  let _ ← word "ONLY"
  let ties ← words ["WITH", "TIES"]
  return dropping percent "PERCENT" [] ++ dropping ties "WITH TIES" []

/-- A number of rows: a sum, though a remainder is read as a share of all rows. -/
def limitValue (g : Readers) : Reader (Option Phrase) := do
  let here ← get
  match ← attempt (term g) with
  | some (.between .mod _ _) | none => do
    set here
    factor g
  | some p => return some p

/-- LIMIT, behind its word: the limit, the offset if it is written before a comma, and what has no
effect. -/
def limit (g : Readers) : Reader (Phrase × Option Phrase × List Phrase) := do
  let first ← limitValue g
  let options ← limitOptions
  if ← sign "," then
    let second ← need (term g)
    return (second, first, options)
  match first with
  | some p => return (p, none, options)
  | none => failure

/-- Whether a clause that has no effect was read. -/
def Clauses.ignores (c : Clauses) (key : String) : Bool := c.ignored.any (·.keyword == key)

/-- Adds a clause that is read only once and has no effect. -/
def Clauses.ignoring (c : Clauses) (key : String) (parts : List Phrase) : Reader Clauses :=
  if c.ignores key then failure
  else pure { c with ignored := c.ignored ++ [.clause key parts] }

/-- One clause behind a query, if one follows. -/
def clause (g : Readers) (c : Clauses) : Reader (Option Clauses) := do
  match ← oneOf ["WHERE", "GROUP BY", "HAVING", "QUALIFY", "WINDOW", "ORDER BY", "LIMIT", "FETCH",
      "OFFSET", "CLUSTER BY", "DISTRIBUTE BY", "SORT BY", "FOR"] with
  | none => return none
  | some "WHERE" => do
    if c.condition.isSome then failure
    return some { c with condition := some (← need g.condition) }
  | some "GROUP BY" => do
    if c.grouping.isSome then failure
    return some { c with grouping := some (← grouping g) }
  | some "HAVING" => do
    if c.having.isSome then failure
    return some { c with having := some (← need g.condition) }
  | some "QUALIFY" => do
    return some (← c.ignoring "QUALIFY" [← need g.condition])
  | some "WINDOW" => do
    let names ← list (do
      let some n ← nameOf true Words.canName | return none
      needWord "AS"
      needSign "("
      skipBalanced
      return some n)
    return some (← c.ignoring "WINDOW" names)
  | some "ORDER BY" => do
    unless c.order.isEmpty do failure
    return some { c with order := ← orderList g }
  | some "LIMIT" => do
    if c.limit.isSome || c.ignores "FETCH" then failure
    let (count, start, options) ← limit g
    return some { c with
      limit := some count, offset := start.or c.offset, ignored := c.ignored ++ options }
  | some "FETCH" => do
    if c.limit.isSome then failure
    let _ ← oneOf ["FIRST", "NEXT"]
    let count ← simple g false
    let options ← limitOptions
    return some (← c.ignoring "FETCH" (count.toList ++ options))
  | some "OFFSET" => do
    if c.offset.isSome then failure
    let start ← need (term g)
    let _ ← oneOf ["ROW", "ROWS"]
    return some { c with offset := some start }
  | some "FOR" => do
    unless ← orM (word "UPDATE") (word "SHARE") do failure
    return some (← c.ignoring "FOR" [])
  | some key => do
    let items ← orderList g
    return some (← c.ignoring key (items.map Ordered.phrase))

/-- The clauses that follow, in any order. -/
def clausesFrom (g : Readers) : Nat → Clauses → Reader Clauses
  | 0, c => pure c
  | fuel + 1, c => do
    match ← clause g c with
    | some c => clausesFrom g fuel c
    | none => return c

/-! ## §C — joins -/

/-- What a join says on which rows belong together. -/
def joinCondition (g : Readers) : Reader Bool := do
  if ← word "ON" then
    let _ ← g.condition
    return true
  if ← word "USING" then
    if ← sign "(" then
      let _ ← list name
      needSign ")"
    else let _ ← name
    return true
  return false

/-- The words before JOIN; nothing is taken where JOIN does not follow them. -/
def joinWords : Reader Bool := do
  let here ← get
  let _ ← oneOf ["ASOF", "NATURAL", "POSITIONAL"]
  let _ ← oneOf ["LEFT", "RIGHT", "FULL"]
  let kind ← oneOf ["ANTI", "CROSS", "INNER", "OUTER", "SEMI", "STRAIGHT_JOIN"]
  if ← word "JOIN" then return true
  if kind == some "STRAIGHT_JOIN" then return true
  set here
  return false

/-- One join.  Behind a comma anything that is no table ends the joins without a failure. -/
def join (g : Readers) (table : Reader Phrase) : Reader (Option Phrase) := do
  if ← sign "," then
    return ← attempt (some <$> table)
  unless ← joinWords do return none
  let p ← table
  unless ← joinCondition g do
    let here ← get
    let more ← g.joins
    unless ← (if more.isEmpty then return false else joinCondition g) do set here
  return some p

/-- Joins, as many as there are. -/
def joinsFrom (g : Readers) (table : Reader Phrase) : Nat → Reader (List Phrase)
  | 0 => pure []
  | fuel + 1 => do
    match ← join g table with
    | some p => return p :: (← joinsFrom g table fuel)
    | none => return []

/-- All joins that follow. -/
def joins (g : Readers) (table : Reader Phrase) : Reader (List Phrase) := do
  joinsFrom g table ((← get).length + 1)

/-- What is lateral behind the joins. -/
def lateralsFrom (g : Readers) : Nat → Reader Bool
  | 0 => pure false
  | fuel + 1 => do
    match ← lateral g with
    | some _ => do
      let _ ← lateralsFrom g fuel
      return true
    | none => return false

/-- **The clauses behind a query** that has some clauses, joins first. -/
def clauses (g : Readers) (table : Reader Phrase) (c : Clauses) : Reader Clauses := do
  let ps ← joins g table
  let hasLateral ← lateralsFrom g (← get).length
  clausesFrom g ((← get).length + 1)
    { c with joins := c.joins ++ ps, hasLateral := c.hasLateral || hasLateral }

/-! ## §D — queries -/

/-- A query with the given clauses. -/
def withClauses (common distinct : Bool) (columns : List Phrase) (source : Option Phrase)
    (c : Clauses) : Query :=
  .mk common distinct columns source c.joins c.hasLateral c.condition c.grouping c.having c.order
    c.limit c.offset c.ignored

/-- The clauses of a query. -/
def clausesOf : Query → Clauses
  | .mk _ _ _ _ joins hasLateral condition grouping having order limit offset dropped =>
    { joins, hasLateral, condition, grouping, having, order, limit, offset, ignored := dropped }

/-- **Further clauses** behind a phrase: a query takes them as its own, behind a table or a query in
parentheses they have no effect, and nothing else has any. -/
def furtherClauses (g : Readers) (table : Reader Phrase) (p : Phrase) : Reader Phrase := do
  match p with
  | .query q =>
    return .query (withClauses q.hasCommon q.hasDistinct q.columns q.source
      (← clauses g table (clausesOf q)))
  | .combined .. | .subquery .. | .table .. => do
    let _ ← clauses g table {}
    return p
  | p => return p

/-- Whether ALL or DISTINCT stands next; neither counts where a point follows or nothing does. -/
def quantifier : Reader Bool := do
  match ← peekSecond with
  | none => return false
  | some t => do
    if t.isSign "." then return false
    let all ← word "ALL"
    let distinct ← word "DISTINCT"
    if all && distinct then failure
    return distinct

/-- A SELECT behind its word, with its source if that was written before it. -/
def select (g : Readers) (table : Reader Phrase) (source : Option Phrase) : Reader Phrase := do
  let distinct ← quantifier
  let kind ← if ← word "AS" then oneOf ["STRUCT", "VALUE"] else pure none
  if distinct then
    if ← word "ON" then let _ ← row g
  let columns ← list g.phrase
  let into ← if ← word "INTO" then
      let _ ← oneOf ["TEMPORARY", "TEMP"]
      let _ ← word "TABLE"
      pure [.clause "INTO" (← tableName g true)]
    else pure []
  let source ← match source with
    | some p => pure (some p)
    | none => if ← word "FROM" then some <$> table else pure none
  let c ← clauses g table { ignored := dropping kind.isSome "AS" [] ++ into }
  return .query (withClauses false distinct columns source c)

/-- What stands in the parentheses around a query: a table or a query, with its clauses. -/
def heldQuery (g : Readers) (place : QueryPlace) : Reader (Option Phrase) := do
  let p ← if place.ofTable then some <$> g.table else g.query ⟨true, false, false⟩
  match p with
  | some p => return some (← g.clauses (← setOperations g p))
  | none => return none

/-- The part before AS of a common table expression, and its statement. -/
def common (g : Readers) : Reader (Option Unit) := do
  let some _ ← tableAlias Words.canRename | failure
  let _ ← word "AS"
  let _ ← orM (words ["NOT", "MATERIALIZED"]) (words ["MATERIALIZED"])
  needSign "("
  let _ ← need g.sentence
  needSign ")"
  return some ()

/-- Common table expressions behind WITH. -/
def commons (g : Readers) : Reader Unit := do
  let _ ← word "RECURSIVE"
  match ← list (common g) with
  | [] => failure
  | _ => return ()

/-- A statement with common table expressions before it, if it can have them. -/
def Sentence.withCommon? : Sentence → Option Sentence
  | .phrase (.query q) => some (.phrase (.query q.withCommon))
  | .phrase (.combined op l r) => some (.phrase (.combined op l r))
  | .phrase (.subquery (.query q) none) => some (.phrase (.query q.withCommon))
  | .phrase (.subquery p none) => some (.phrase p)
  | .phrase _ => none
  | .other kind => if ["Create", "Merge"].contains kind then some (.other kind) else none
  | .insert t columns source dropped => some (.insert t columns source (.clause "WITH" [] :: dropped))
  | .update t sets hasSource condition dropped =>
    some (.update t sets hasSource condition (.clause "WITH" [] :: dropped))
  | .delete t condition dropped => some (.delete t condition (.clause "WITH" [] :: dropped))

/-- WITH and the statement behind it. -/
def withCommon (g : Readers) : Reader Sentence := do
  needWord "WITH"
  commons g
  match Sentence.withCommon? (← need g.sentence) with
  | some s => return s
  | none => failure

/-- **A query**, where `place` says how it may be written. -/
def query (g : Readers) (place : QueryPlace) : Reader (Option Phrase) := do
  let table := table g Words.canRenameTable (g.query ⟨false, true, true⟩)
  if ← seesWord "WITH" then
    match ← withCommon g with
    | .phrase p => return some p
    | _ => failure
  let source ← if ← word "FROM" then some <$> table else pure none
  let combine (p : Phrase) : Reader (Option Phrase) := do
    if place.combined then return some (← setOperations g p) else return some p
  if ← word "SELECT" then
    combine (← select g table source)
  else if (place.nested || place.ofTable) && (← seesSign "(") then
    skip
    let held ← heldQuery g place
    needSign ")"
    match held with
    | some p => return some (.subquery p (← tableAlias Words.canRenameTable))
    | none => return none
  else if ← seesWord "VALUES" then
    match ← valueRows g with
    | some p => combine p
    | none => return none
  else match source with
    | some _ => combine (.query (withClauses false false [.star] source (← clauses g table {})))
    | none => return none

end Queries
end Sql
end TableQuery

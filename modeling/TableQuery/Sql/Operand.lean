/-
# TableQuery.Sql.Operand — what stands between operators.

An operand is a value, a name, a function, a choice or something in parentheses, followed by points
and fields.  Words that mean something elsewhere are names wherever the grammar leaves no doubt.

## §A — values.
## §B — parentheses.
## §C — functions.
## §D — names and fields.
## §E — operands.
-/
import TableQuery.Sql.Functions
import TableQuery.Sql.Readers

namespace TableQuery
namespace Sql
namespace Operand

open Reader

/-! ## §A — values -/

/-- The texts that stand next, one behind the other. -/
def strings : Nat → Reader (List Phrase)
  | 0 => pure []
  | fuel + 1 => do
    match ← peek with
    | some (.string text) =>
      skip
      return .string text :: (← strings fuel)
    | _ => return []

/-- Items in parentheses. -/
def wrapped {α : Type} (item : Reader (Option α)) : Reader (List α) := do
  needSign "("
  let items ← list item
  needSign ")"
  return items

/-- A phrase with a new name behind AS. -/
def namedBehindAs (p : Option Phrase) : Reader (Option Phrase) := do
  unless ← word "AS" do return p
  if ← sign "(" then
    let names ← list (nameOf true Words.canName)
    needSign ")"
    match p with
    | some p => return some (.renamedAll p names)
    | none => failure
  match ← orElse (nameOf true Words.canName) stringName, p with
  | some n, some p => return some (.renamed p n)
  | some _, none => failure
  | none, p => return p

/-- What is left out of, or changed in, the star: it has no effect on what the star stands for. -/
def starItem (g : Readers) (keys : List String) : Reader Unit := do
  match ← oneOf keys with
  | none => return ()
  | some _ =>
    if ← seesSign "(" then
      let _ ← wrapped g.phrase
    else
      let _ ← namedBehindAs (← g.condition)

/-- A value by itself, and the star. -/
def value (g : Readers) : Reader (Option Phrase) := do
  match ← peek with
  | some (.string _) =>
    match ← strings (← get).length with
    | [p] => return some p
    | ps => return some (.call "CONCAT" ps)
  | some (.national text) => do skip; return some (.other "National" ("N" ++ marked '\'' text) [])
  | some (.number text) => do skip; return some (.number text)
  | some (.hex text) => do
    skip
    return some (.other "HexString" (toString (Text.hexValue (text.map Char.toLower))) [])
  | some (.word _ "NULL") => do skip; return some .null
  | some (.word _ "TRUE") => do skip; return some (.boolean true)
  | some (.word _ "FALSE") => do skip; return some (.boolean false)
  | some (.sign "*") => do
    skip
    starItem g ["EXCEPT", "EXCLUDE"]
    starItem g ["REPLACE"]
    starItem g ["RENAME"]
    return some .star
  | some (.sign ".") => do
    match ← peekSecond with
    | some (.number text) => do skip; skip; return some (.number ("0." ++ text))
    | _ => return none
  | _ => return none

/-! ## §B — parentheses -/

/-- Whether a phrase is a query without parentheses around it. -/
def isBareQuery : Phrase → Bool
  | .query _ | .combined .. => true
  | _ => false

/-- Whether a phrase is a query in parentheses or a list of rows. -/
def isHeldQuery : Phrase → Bool
  | .subquery .. | .rows _ => true
  | _ => false

/-- Items between commas, and whether the last place is empty. -/
def openList (item : Reader (Option Phrase)) : Nat → Reader (List Phrase × Bool)
  | 0 => failure
  | fuel + 1 => do
    let first ← item
    if ← sign "," then
      let (more, lastEmpty) ← openList item fuel
      return (first.toList ++ more, lastEmpty)
    return (first.toList, first.isNone)

/-- A set operation and the query behind it, as often as one follows. -/
def setOperationsFrom (g : Readers) : Nat → Phrase → Reader Phrase
  | 0, p => pure p
  | fuel + 1, p => do
    let op : SetOperation ← match ← oneOf ["UNION", "EXCEPT", "INTERSECT"] with
      | some "UNION" => pure .union
      | some "EXCEPT" => pure .except
      | some _ => pure .intersect
      | none => return p
    let _ ← oneOf ["DISTINCT", "ALL"]
    let _ ← words ["BY", "NAME"]
    let right ← need (g.query ⟨true, false, false⟩)
    setOperationsFrom g fuel (.combined op p right)

/-- A phrase and what UNION and its kin add to it. -/
def setOperations (g : Readers) (p : Phrase) : Reader Phrase := do
  setOperationsFrom g (← get).length p

/-- An item of an ORDER BY list. -/
def ordered (g : Readers) : Reader (Option Ordered) := do
  let some p ← g.condition | return none
  let asc ← word "ASC"
  let desc ← word "DESC"
  let first ← words ["NULLS", "FIRST"]
  let last ← words ["NULLS", "LAST"]
  return some (.mk p (if desc then some true else if asc then some false else none)
    (if first then some true else if last then some false else none))

/-- An ORDER BY list, which is not empty. -/
def orderList (g : Readers) : Reader (List Ordered) := do
  match ← list (ordered g) with
  | [] => failure
  | items => return items

/-! ## §C — functions -/

/-- What follows a call: a condition on rows, an order in the group, a window. -/
def windowed (p : Phrase) : Reader Phrase := do
  let p ← if (← seesWord "FILTER") && (← peekSecond).any (·.isSign "(") then
      skip
      skip
      skipBalanced
      pure (.other "Filter" (p.written ++ " FILTER(WHERE)") [p])
    else pure p
  let p ← if ← words ["WITHIN", "GROUP"] then
      needSign "("
      skipBalanced
      pure (.other "WithinGroup" (p.written ++ " WITHIN GROUP ()") [p])
    else pure p
  unless ← word "OVER" do return p
  if ← sign "(" then skipBalanced
  else let _ ← need name
  return .other "Window" (p.written ++ " OVER ()") [p]

/-- A query, or a phrase with what UNION and its kin add to it. -/
def queryOr (g : Readers) (p : Reader (Option Phrase)) : Reader (Option Phrase) := do
  match ← g.query {} with
  | some q => return some q
  | none =>
    match ← p with
    | some p => return some (← setOperations g p)
    | none => return none

/-- A name and what an arrow says of it. -/
def arrow (g : Readers) : Reader (Option Phrase) := do
  match ← peekSecond with
  | some (.sign "->") => attempt do
    let some n ← nameOf true Words.canName | return none
    skip
    let body ← need g.condition
    return some (.other "Lambda" (n.written ++ " -> " ++ body.written) [body])
  | some (.sign "=>") => attempt do
    let some n ← nameOf true Words.canName | return none
    skip
    let body ← need g.condition
    return some (.other "Kwarg" (n.written ++ " => " ++ body.written) [body])
  | _ => return none

/-- An argument of a function; it may be renamed where the function is not known. -/
def argument (g : Readers) (named : Bool) : Reader (Option Phrase) := do
  if let some p ← arrow g then return some p
  let p ← if ← word "DISTINCT" then pure (some (.distinct (← list g.condition)))
    else queryOr g (do
      let p ← g.condition
      if named then namedBehindAs p else return p)
  match p with
  | some p =>
    if ← word "ORDER BY" then
      let items ← orderList g
      return some (.other "Order" (p.written ++ listClause "ORDER BY" (Ordered.writtenList items)) [p])
    return some p
  | none => return none

/-- CAST, behind its opening parenthesis. -/
def castArguments (g : Readers) (strict : Bool) : Reader Phrase := do
  let p ← need g.condition
  needWord "AS"
  let type ← need type
  return if strict then .cast p type else .call "TRY_CAST" [p, .other "DataType" type []]

/-- What FROM and FOR say about a part of a text. -/
def partBounds (g : Readers) : Nat → Option Phrase → Option Phrase →
    Reader (Option Phrase × Option Phrase)
  | 0, start, count => pure (start, count)
  | fuel + 1, start, count => do
    if ← word "FROM" then
      partBounds g fuel (← g.bitwise) count
    else if ← word "FOR" then
      partBounds g fuel (some (start.getD (.number "1"))) (← g.bitwise)
    else return (start, count)

/-- SUBSTRING, behind its opening parenthesis. -/
def partArguments (g : Readers) : Reader Phrase := do
  let args ← list g.bitwise
  let (start, count) ← partBounds g (← get).length none none
  match Phrase.ofFunction "SUBSTRING" false (args ++ start.toList ++ count.toList) with
  | some p => return p
  | none => failure

/-- TRIM, behind its opening parenthesis. -/
def trimArguments (g : Readers) : Reader Phrase := do
  let function := match ← oneOf ["LEADING", "TRAILING", "BOTH"] with
    | some "LEADING" => "LTRIM"
    | some "TRAILING" => "RTRIM"
    | _ => "TRIM"
  let first ← need g.bitwise
  if ← word "FROM" then
    match ← g.bitwise with
    | some second => return .call function [second, first]
    | none => failure
  if ← sign "," then
    return .call function (first :: (← g.bitwise).toList)
  return .call function [first]

/-- A function by its name, behind its opening parenthesis.  `known` is false where only a name
counts. -/
def application (g : Readers) (text : String) (quoted known : Bool) : Reader Phrase := do
  let key := capitals text
  if !quoted && known && ["ANY", "ALL", "SOME", "EXISTS"].contains key &&
      (← seesOneOf ["SELECT", "WITH"]) then
    let q ← need (g.query {})
    needSign ")"
    return match key with
      | "EXISTS" => .call "EXISTS" [q]
      | "ALL" => .other "All" ("ALL (" ++ q.written ++ ")") [q]
      | _ => .other "Any" ("ANY(" ++ q.written ++ ")") [q]
  let p ← match known, key with
    | true, "CAST" => castArguments g true
    | true, "TRY_CAST" => castArguments g false
    | true, "SAFE_CAST" => castArguments g false
    | true, "SUBSTRING" => partArguments g
    | true, "TRIM" => trimArguments g
    | true, _ => do
      let args ← list (argument g !(isKnownFunction key))
      match Phrase.ofFunction text quoted args with
      | some p => pure p
      | none => failure
    | false, _ => do
      let args ← list (argument g true)
      pure (.userCall text quoted args)
  needSign ")"
  windowed p

/-- The branches of a choice. -/
def branches (g : Readers) : Nat → Reader (List (Phrase × Phrase))
  | 0 => pure []
  | fuel + 1 => do
    unless ← word "WHEN" do return []
    let c ← need g.condition
    let _ ← word "THEN"
    let v ← need g.condition
    return (c, v) :: (← branches g fuel)

/-- CASE, behind its word. -/
def choice (g : Readers) : Reader Phrase := do
  let subject ← g.condition
  let branches ← branches g (← get).length
  if branches.isEmpty then failure
  let default ← if ← word "ELSE" then g.condition else pure none
  needWord "END"
  return .choice subject branches default

/-- IF, behind its word: a function, or a choice between two values in words. -/
def ifChoice (g : Readers) : Reader (Option Phrase) := do
  if ← sign "(" then
    let args ← list (do namedBehindAs (← g.condition))
    match Phrase.ofFunction "IF" false args with
    | some p => do
      needSign ")"
      return some p
    | none => failure
  let some c ← g.condition | return none
  let _ ← word "THEN"
  let v ← need g.condition
  let w ← if ← word "ELSE" then g.condition else pure none
  let _ ← word "END"
  return some (.call "IF" ([c, v] ++ w.toList))

/-- Functions that take no parentheses. -/
def bareFunctions : List String :=
  ["CURRENT_DATE", "CURRENT_TIME", "CURRENT_TIMESTAMP", "CURRENT_USER", "LOCALTIME",
   "LOCALTIMESTAMP"]

/-- A function.  Behind a point (`field`) any word before a parenthesis is one, and only its name
counts. -/
def function (g : Readers) (field : Bool) : Reader (Option Phrase) := do
  match ← get with
  | .word text key :: rest =>
    let next := rest.head?
    if !field && key == "CASE" && !next.any (·.isSign ".") then
      skip
      return some (← windowed (← choice g))
    if !field && key == "ANY" then
      skip
      let p ← need g.bitwise
      return some (← windowed (.other "Any" ("ANY(" ++ p.written ++ ")") [p]))
    if !field && key == "IF" then
      let here ← get
      skip
      match ← ifChoice g with
      | some p => return some (← windowed p)
      | none => do
        set here
        return none
    if next.any (·.isSign "(") then
      if if field then key != "NOT" && key != "SELECT" else Words.canCall key then
        skip
        skip
        return some (← application g text false (!field))
      return none
    if !field && bareFunctions.contains key then
      skip
      return some (.call key [])
    return none
  | .quoted text :: .sign "(" :: _ =>
    skip
    skip
    return some (← application g text true (!field))
  | _ => return none

/-! ## §D — names and fields -/

/-- Something in parentheses: a query, nothing, one item, or several. -/
def enclosure (g : Readers) : Reader (Option Phrase) := do
  unless ← sign "(" do return none
  let (items, lastEmpty) ← match ← g.query {} with
    | some q => pure ([q], false)
    | none => openList g.phrase ((← get).length + 1)
  match items with
  | p :: more =>
    let p ← g.clauses p
    let p : Phrase ← if isBareQuery p then pure (.subquery p none)
      else if isHeldQuery p then
        let q ← g.clauses (← setOperations g p)
        pure (.subquery q none)
      else if !more.isEmpty || lastEmpty then pure (.tuple (p :: more))
      else pure (.paren p)
    needSign ")"
    match p with
    | .paren (.aggregate ..) => return some (← windowed p)
    | _ => return some p
  | [] =>
    needSign ")"
    return some (.tuple [])

/-- A parameter behind its sign. -/
def parameter (g : Readers) : Reader (Option Phrase) := do
  unless ← sign "@" do return none
  match ← orElse (value g) (enclosure g) with
  | some p => return some (.parameter (some p))
  | none =>
    let p ← need (nameOf true Words.canName)
    return some (.parameter (some p))

/-- A value, a function or a name; behind a point a function comes first and any word is a name. -/
def simple (g : Readers) (field : Bool) : Reader (Option Phrase) :=
  let values := orElse (value g) (enclosure g)
  let functions := function g field
  let names := orElse (nameOf field Words.canName) (parameter g)
  if field then orElse functions (orElse values names) else orElse values (orElse functions names)

/-- A value, a function or a column without its fields. -/
def reference (g : Readers) : Reader (Option Phrase) := do
  match ← simple g false with
  | some (.name text quoted) => return some (.column [.name text quoted])
  | some p => return some p
  | none =>
    if (← seesWord "VALUES") && !(← peekSecond).any (·.isSign "(") then
      match ← nameOf true Words.canName with
      | some n => return some (.column [n])
      | none => return none
    return none

/-- Whether a phrase is the use of a function. -/
def isCall : Phrase → Bool
  | .call .. | .userCall .. | .aggregate .. | .choice .. | .cast .. | .collate .. => true
  | .other kind _ _ => kind == "Window"
  | _ => false

/-- A phrase and a field of it: a column has at most four parts. -/
def withField : Phrase → Phrase → Phrase
  | .column parts, field =>
    if isCall field || parts.length ≥ 4 then .dot (.column parts) field
    else .column (parts ++ [field])
  | p, field => .dot p field

/-- What follows an operand: fields, a type, a path into a document. -/
def fieldsFrom (g : Readers) : Nat → Phrase → Reader Phrase
  | 0, p => pure p
  | fuel + 1, p => do
    match ← peek with
    | some (.sign ".") =>
      skip
      let field ← need (simple g true)
      fieldsFrom g fuel (withField p field)
    | some (.sign "::") =>
      skip
      let type ← need type
      fieldsFrom g fuel (.cast p type)
    | some (.sign "->") =>
      skip
      let path ← need (orElse g.reference g.bitwise)
      fieldsFrom g fuel (.call "JSON_EXTRACT" [p, documentPath path])
    | some (.sign "->>") =>
      skip
      let path ← need (orElse g.reference g.bitwise)
      fieldsFrom g fuel (.call "JSON_EXTRACT_SCALAR" [p, documentPath path])
    | some (.question _) =>
      skip
      let key ← need (orElse g.reference g.bitwise)
      fieldsFrom g fuel (.call "JSONB_CONTAINS" [p, key])
    | _ => return p

/-- An operand with its fields. -/
def withFields (g : Readers) (p : Phrase) : Reader Phrase := do
  fieldsFrom g ((← get).length + 1) p

/-! ## §E — operands -/

/-- A value with its type written before it; no token is taken where there is none. -/
def typed (g : Readers) : Reader (Option Phrase) := do
  let here ← get
  let some (type, sized) ← knownType | return none
  match ← peek with
  | some (.string _) =>
    match ← value g with
    | some (.string text) =>
      let p ← withFields g (.string text)
      if type == "JSON" then return some (.call "PARSE_JSON" [p])
      return some (.cast p type)
    | _ => do
      set here
      return none
  | some (.number text) => do
    if sized then
      set here
      return none
    skip
    let p ← withFields g (.number text)
    return some (.cast p type)
  | _ => do
    set here
    return none

/-- The words for the units of a span of time. -/
def units : List String :=
  ["MICROSECOND", "MILLISECOND", "SECOND", "SECONDS", "MINUTE", "MINUTES", "HOUR", "HOURS", "DAY",
   "DAYS", "WEEK", "WEEKS", "MONTH", "MONTHS", "QUARTER", "QUARTERS", "YEAR", "YEARS"]

/-- A span of time: a value behind INTERVAL and perhaps its unit.  A bare name behind INTERVAL
counts only before a unit. -/
def span (g : Readers) : Reader (Option Phrase) := do
  let here ← get
  unless ← word "INTERVAL" do return none
  let p ← match ← peek with
    | some (.string _) => value g
    | _ => g.term
  let bare := match p with
    | some (.column [.name _ false]) => true
    | _ => false
  let next ← peek
  let unit := match next with
    | some (.word _ key) => units.contains key
    | _ => false
  match p with
  | none => do
    set here
    return none
  | some p =>
    if bare && next.isSome && !unit then
      set here
      return none
    let written ← match ← (if ← seesWord "AS" then return none else nameOf true Words.canName) with
      | some (.name text _) => pure (" " ++ capitals text)
      | _ => pure ""
    return some (.other "Interval" ("INTERVAL " ++ p.written ++ written) [p])

/-- **An operand.** -/
def operand (g : Readers) : Reader (Option Phrase) := do
  if let some p ← span g then return some (← withFields g p)
  if let some p ← typed g then return some p
  match ← reference g with
  | some p => return some (← withFields g p)
  | none => return none

end Operand
end Sql
end TableQuery

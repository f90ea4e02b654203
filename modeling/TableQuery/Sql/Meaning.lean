/-
# TableQuery.Sql.Meaning — phrases as statements and expressions.

What the engine carries out is a small part of what the grammar reads.  Here a phrase becomes a
statement or an expression, or is refused: clauses that are not carried out first, then functions of
many rows, then the parts: of a SELECT the select list, WHERE, ORDER BY, LIMIT and OFFSET.  Positional
markers are numbered as they are met, so a marker keeps its number however often it is evaluated.

## §A — names and literals.
## §B — expressions and queries.
## §C — statements.
## §D — texts.
-/
import TableQuery.Error
import TableQuery.Sql.Grammar
import TableQuery.Statement.Basic

namespace TableQuery
namespace Sql

/-! ## §A — names and literals -/

variable {σ : Type}

/-- A meaning of a phrase: a failure or a result, with a state that only numbering looks at. -/
abbrev Meaning (σ : Type) := Run σ

/-- Refuses a text. -/
def refuse {α : Type} (fault : ParseFault) : Meaning σ α := throw (.parse fault)

/-- Refuses a feature. -/
def unsupported {α : Type} (feature : Unsupported) : Meaning σ α := throw (.unsupported feature)

/-- The plain name that a phrase is known by, empty if there is none. -/
def Phrase.plainName : Phrase → String
  | .number text => text
  | .string text => text
  | .null => "NULL"
  | .star => "*"
  | .name text _ => text
  | .marker text => text
  | .column parts => lastName parts
  | .paren p => p.plainName
  | .dot _ field => field.plainName
  | .table parts _ => lastName parts
  | .userCall function _ _ => function
  | .other "Var" text _ => text
  | .other "HexString" text _ => text
  | _ => ""
where
  /-- The name of the last of some parts. -/
  lastName : List Phrase → String
    | [] => ""
    | [p] => p.plainName
    | _ :: rest => lastName rest

/-- The value of a numeral: an integer unless it has a point or an exponent. -/
def numeral (text : String) : Meaning σ Value :=
  match Number.readTrimmed? text.toList with
  | some n => return Value.ofNumber n
  | none => refuse (.numeral text)

/-- A way to number positional markers, which may depend on where they stand in the text. -/
abbrev Numbering (σ : Type) := Nat → Meaning σ Nat

/-- **Counting** — markers are numbered as they are met, wherever they stand. -/
def Numbering.counting : Numbering Nat := fun _ => do
  let n ← get
  set (n + 1)
  return n

/-- An expression with a minus sign before it; before a number or a truth value the sign belongs to
the value. -/
def withMinus : Expr → Expr
  | .literal (.int i) => .literal (.int (-i))
  | .literal (.float x) => .literal (.float x.neg)
  | .literal (.bool b) => .literal (.int (if b then -1 else 0))
  | e => .unary .neg e

/-- The operator of the engine for an operator of the grammar, if it has one. -/
def Infix.binary? : Infix → Option BinaryOp
  | or => some .or
  | and => some .and
  | eq => some .eq
  | ne => some .ne
  | lt => some .lt
  | le => some .le
  | gt => some .gt
  | ge => some .ge
  | concat => some .concat
  | add => some .add
  | sub => some .sub
  | mod => some .mod
  | mul => some .mul
  | div => some .div
  | _ => none

/-- The name under which a call is known to the engine. -/
def callName (function : String) : String :=
  if function = "LTRIM" ∨ function = "RTRIM" then "TRIM" else function

/-- The table that a phrase names; a function in the place of a table has no name. -/
def tableName (keyword : String) : Option Phrase → Meaning σ String
  | some (.table parts _) =>
    match parts.getLast? with
    | some (.name "" _) => refuse (.noTable keyword)
    | some (.name name _) => return name
    | _ => refuse (.noTable keyword)
  | some (.subquery ..) => unsupported .sourceSubquery
  | _ => refuse (.noTable keyword)

/-- The label of a computed column. -/
def labelOf (aliasName : Option String) (e : Expr) (written : String) : String :=
  match aliasName, e with
  | some name, e => if name ≠ "" then name else match e with
    | .column column => Expr.lastPart column
    | _ => written
  | none, .column column => Expr.lastPart column
  | none, _ => written

/-- The text that an item of a select list is renamed to. -/
def aliasText : Phrase → String
  | .name text _ => text
  | _ => ""

/-- Whether an item stands for all columns. -/
def isStar : Phrase → Bool
  | .star => true
  | .column parts => match parts.getLast? with
    | some .star => true
    | _ => false
  | _ => false

/-! ## §B — expressions and queries -/

/-- A result, or the text of the phrase where the phrase is no expression. -/
def orText (written : String) (e : Meaning σ Expr) : Meaning σ Expr :=
  tryCatch e fun
    | .parse _ => return .literal (.text written)
    | fault => throw fault

/-- Membership in a list. -/
def memberOf (l : Meaning σ Expr) (values : Meaning σ (List Expr)) (negative : Bool) :
    Meaning σ Expr :=
  return .member (← l) (← values) none negative

/-- Membership in the answer of a query. -/
def memberOfQuery (l : Meaning σ Expr) (q : Meaning σ Select) (negative : Bool) :
    Meaning σ Expr :=
  return .member (← l) [] (some (← q)) negative

/-- Membership in what is neither a list nor a query. -/
def memberOfField (l : Meaning σ Expr) (hasField negative : Bool) : Meaning σ Expr := do
  let l ← l
  if hasField then unsupported .membershipForm else return .member l [] none negative

/-- A test for NULL; IS admits nothing else. -/
def identityTest (l : Meaning σ Expr) (written : String) (right : Phrase) (negative : Bool) :
    Meaning σ Expr :=
  match right with
  | .null => return .isNull (← l) negative
  | .leading .not .null => return .isNull (← l) (!negative)
  | _ => unsupported (.identity written)

/-- The two sides of an operator that the engine has. -/
def joined (op : Infix) (l r : Meaning σ Expr) : Meaning σ Expr :=
  match op.binary? with
  | some op => return .binary op (← l) (← r)
  | none => refuse (.expressionKind op.kindName)

/-- An item of a select list under a name, if it has one. -/
def resultColumn (p : Phrase) (aliasName : Option String) (e : Meaning σ Expr) :
    Meaning σ ResultColumn := do
  if isStar p then return .mk .star aliasName "*"
  else
    let e ← e
    return .mk e aliasName (labelOf aliasName e p.written)

/-- A result, or NOT and the result. -/
def opposed (negative : Bool) (e : Meaning σ Expr) : Meaning σ Expr := do
  if negative then return .unary .not (← e) else e

section
variable (number : Numbering σ)

mutual

/-- **The expression** that a phrase writes, or the opposite of what it says: tests have an opposite of
their own, also in parentheses. -/
def Phrase.expression : Bool → Phrase → Meaning σ Expr
  | negative, .paren p => p.expression negative
  | negative, .memberOf l ps => memberOf (l.expression false) (Phrase.expressions ps) negative
  | negative, .memberOfQuery l q => memberOfQuery (l.expression false) q.asQuery negative
  | negative, .memberOfField l f => memberOfField (l.expression false) f.isSome negative
  | negative, .between .is l r =>
    identityTest (l.expression false) (Phrase.between .is l r).written r negative
  | negative, .between .like l r =>
    return .like (← l.expression false) (← r.expression false) negative
  | negative, .leading .not p => opposed negative (p.expression true)
  | negative, .leading .neg p => opposed negative do return withMinus (← p.expression false)
  | negative, .column parts => opposed negative do
    if isStar (.column parts) then refuse .strayStar
    else return .column (".".intercalate (parts.map Phrase.plainName))
  | negative, .number text => opposed negative do return .literal (← numeral text)
  | negative, .string text => opposed negative do return .literal (.text text)
  | negative, .null => opposed negative do return .literal .null
  | negative, .boolean b => opposed negative do return .literal (.bool b)
  | negative, .question place => opposed negative do
    return .marker { index := some (Int.ofNat (← number place)) }
  | negative, .marker name => opposed negative do return .marker { name := some name }
  | negative, .within s low high => opposed negative do
    let subject ← s.expression false
    let low ← low.expression false
    let high ← high.expression false
    return .binary .and (.binary .ge subject low) (.binary .le subject high)
  | negative, .subquery p _ => opposed negative do return .subquery (← p.asQuery)
  | negative, .query q => opposed negative do return .subquery (← q.select)
  | negative, .between .regexp l r => opposed negative do
    return .call "REGEXP_LIKE"
      [← orText l.written (l.expression false), ← orText r.written (r.expression false)]
  | negative, .between op l r =>
    opposed negative (joined op (l.expression false) (r.expression false))
  | negative, .aggregate function _ => opposed negative (unsupported (.aggregate function))
  | negative, .call function ps => opposed negative do
    return .call (callName function) (← Phrase.arguments ps)
  | negative, .userCall function _ ps => opposed negative do
    return .call (capitals function) (← Phrase.arguments ps)
  | negative, .choice s bs d => opposed negative do
    let subject ← Phrase.optionArgument s
    let branches ← Phrase.branchArguments bs
    let default ← Phrase.optionArgument d
    return .call "CASE" (subject ++ branches ++ default)
  | negative, .cast p type => opposed negative do
    return .call "CAST" [← orText p.written (p.expression false), .literal (.text type)]
  | negative, .collate p name => opposed negative do
    return .call "COLLATE"
      [← orText p.written (p.expression false), ← orText name.written (name.expression false)]
  | _, p => refuse (.expressionKind p.kindName)

/-- The query of a subquery. -/
def Phrase.asQuery : Phrase → Meaning σ Select
  | .query q => q.select
  | p => unsupported (.subqueryKind p.kindName)

/-- The expressions that phrases write. -/
def Phrase.expressions : List Phrase → Meaning σ (List Expr)
  | [] => return []
  | p :: ps => do
    let e ← p.expression false
    return e :: (← Phrase.expressions ps)

/-- The arguments that phrases write. -/
def Phrase.arguments : List Phrase → Meaning σ (List Expr)
  | [] => return []
  | p :: ps => do
    let e ← orText p.written (p.expression false)
    return e :: (← Phrase.arguments ps)

/-- The argument that a phrase writes, if it is there. -/
def Phrase.optionArgument : Option Phrase → Meaning σ (List Expr)
  | none => return []
  | some p => return [← orText p.written (p.expression false)]

/-- The arguments that the branches of a choice write. -/
def Phrase.branchArguments : List (Phrase × Phrase) → Meaning σ (List Expr)
  | [] => return []
  | (c, v) :: rest => do
    let condition ← orText c.written (c.expression false)
    let value ← orText v.written (v.expression false)
    return .call "IF" [condition, value] :: (← Phrase.branchArguments rest)

/-- An item of an ORDER BY list. -/
def Ordered.term : Ordered → Meaning σ OrderTerm
  | .mk p desc _ => return .mk (← p.expression false) (desc.getD false)

/-- The items of an ORDER BY list. -/
def Ordered.terms : List Ordered → Meaning σ (List OrderTerm)
  | [] => return []
  | o :: os => do
    let t ← o.term
    return t :: (← Ordered.terms os)

/-- The items of a select list. -/
def Phrase.resultColumns : List Phrase → Meaning σ (List ResultColumn)
  | [] => return []
  | .renamed p n :: ps => do
    let column ← resultColumn p (some (aliasText n)) (p.expression false)
    return column :: (← Phrase.resultColumns ps)
  | p :: ps => do
    let column ← resultColumn p none (p.expression false)
    return column :: (← Phrase.resultColumns ps)

/-- The expression of a clause, if the clause is there. -/
def Phrase.optionExpression : Option Phrase → Meaning σ (Option Expr)
  | none => return none
  | some p => return some (← p.expression false)

/-- **The query** that the engine carries out. -/
def Query.select : Query → Meaning σ Select
  | .mk common distinct columns source joins lateral condition grouping having order limit offset
      dropped => do
    let q : Query :=
      .mk common distinct columns source joins lateral condition grouping having order limit offset
        dropped
    unless joins.isEmpty do unsupported (.clause "JOIN")
    if grouping.isSome then unsupported (.clause "GROUP BY")
    if having.isSome then unsupported (.clause "HAVING")
    if distinct then unsupported (.clause "DISTINCT")
    if common then unsupported (.clause "WITH (common table expressions)")
    if lateral then unsupported (.clause "LATERAL")
    if let some function := q.aggregate? then unsupported (.aggregate function)
    if source.isNone then refuse .noFrom
    let table ← tableName "SELECT" source
    let columns ← Phrase.resultColumns columns
    let condition ← Phrase.optionExpression condition
    let orderBy ← Ordered.terms order
    let limit ← Phrase.optionExpression limit
    let offset ← Phrase.optionExpression offset
    return .mk table columns condition orderBy limit offset

end

/-! ## §C — statements -/

/-- The values of a row of an INSERT. -/
def rowValues (columns : Nat) (p : Phrase) : Meaning σ (List Expr) := do
  let items := match p with
    | .tuple items => items
    | p => [p]
  let row ← Phrase.expressions number items
  if columns ≠ 0 ∧ row.length ≠ columns then refuse (.valueCount columns row.length)
  return row

/-- An assignment of an UPDATE. -/
def assignment (p : Phrase) : Meaning σ (String × Expr) :=
  match p with
  | .between .eq (.column parts) right => do
    let e ← right.expression number false
    return (Phrase.plainName.lastName parts, e)
  | p => refuse (.assignment p.written)

/-- **The statement** that a sentence states. -/
def Sentence.statement : Sentence → Meaning σ Statement
  | .phrase (.query q) => return .select (← q.select number)
  | .phrase (.combined op _ _) => unsupported (.clause op.keyword)
  | .phrase p => refuse (.statementKind p.kindName)
  | .other kind => refuse (.statementKind kind)
  | .insert target columns source _ => do
    let columns := columns.map Phrase.plainName
    let table ← tableName "INSERT" (some target)
    match source with
    | some (.rows rows) => do
      let rows ← rows.mapM (rowValues number columns.length)
      return .insert { table := table, columns := columns, rows := rows }
    | _ => unsupported .insertSource
  | .update target assignments hasSource condition _ => do
    let table ← tableName "UPDATE" (some target)
    if hasSource then unsupported .updateSource
    let assignments ← assignments.mapM (assignment number)
    if assignments.isEmpty then refuse .noAssignment
    let condition ← Phrase.optionExpression number condition
    return .update { table := table, assignments := assignments, condition := condition }
  | .delete target condition _ => do
    let table ← tableName "DELETE" target
    let condition ← Phrase.optionExpression number condition
    return .delete { table := table, condition := condition }

end

end Sql

/-! ## §D — texts -/

/-- The outcome of a meaning whose markers are counted from zero. -/
def Sql.outcome {α : Type} (m : Sql.Numbering Nat → Sql.Meaning Nat α) : Except Error α :=
  (Run.outcome (m .counting) 0).1

/-- **The statement of a text**, which has to be one statement. -/
def Statement.ofText (text : String) : Except Error Statement := do
  let some sentences := Sql.sentences? text | throw (.parse .statement)
  match sentences.filterMap id with
  | [] => throw (.parse .noStatement)
  | [s] => Sql.outcome fun number => s.statement number
  | _ => throw (.parse .severalStatements)

/-- **The expression of a text**: what stands before the first semicolon. -/
def Expr.ofText (text : String) : Except Error Expr := do
  match Sql.sentences? text with
  | some (some s :: _) =>
    match s with
    | .phrase p => Sql.outcome fun number => p.expression number false
    | s => throw (.parse (.expressionKind s.kindName))
  | _ => throw (.parse .expression)

end TableQuery

/-
# TableQuery.Error — why a request fails.

Every failure is a cause: what is wrong with the text, which feature is missing, how a table broke
its contract, which number is out of range.  `Error.message` gives the one wording of each cause.
Failures of the query language itself (`Error.isQueryError`) are answered; the others pass through.

## §A — texts that are no statements.
## §B — features that are missing.
## §C — breaches of the table contract.
## §D — all failures.
-/
import TableQuery.Collation.Locale
import TableQuery.Number.Basic
import TableQuery.Text.Encoding

namespace TableQuery

/-! ## §A — texts that are no statements -/

/-- Why a text is no statement, or no expression. -/
inductive ParseFault where
  /-- The text does not follow the grammar of statements. -/
  | statement
  /-- The text does not follow the grammar of expressions. -/
  | expression
  | noStatement
  | severalStatements
  | statementKind (kind : String)
  | expressionKind (kind : String)
  | strayStar
  | numeral (text : String)
  | noFrom
  | noTable (keyword : String)
  | noClauseValue (clause : String)
  | valueCount (columns values : Nat)
  | assignment (text : String)
  | noAssignment
  deriving DecidableEq, Repr

/-- What a fault of a text says. -/
def ParseFault.message : ParseFault → String
  | statement => "Failed to parse SQL"
  | expression => "Failed to parse expression"
  | noStatement => "Empty SQL statement"
  | severalStatements => "Multiple statements not supported"
  | statementKind kind => "Unsupported statement type: " ++ kind
  | expressionKind kind => "Unsupported expression type: " ++ kind
  | strayStar => "'*' is only allowed in the SELECT list"
  | numeral text => "Invalid numeric literal: " ++ text
  | noFrom => "SELECT requires FROM clause"
  | noTable keyword => keyword ++ " requires a table name"
  | noClauseValue clause => "Missing value in " ++ clause ++ " clause"
  | valueCount columns values =>
    "INSERT has " ++ toString columns ++ " columns but " ++ toString values ++ " values"
  | assignment text => "Invalid SET assignment: " ++ text
  | noAssignment => "UPDATE requires at least one SET assignment"

/-! ## §B — features that are missing -/

/-- Something of the grammar that is understood and not carried out. -/
inductive Unsupported where
  | clause (name : String)
  | aggregate (name : String)
  | sourceSubquery
  | insertSource
  | updateSource
  | membershipForm
  | identity (text : String)
  | subqueryKind (kind : String)
  | function (name : String)
  | subqueryEvaluation
  | queryOf (verb : String)
  | executeSelect
  | columnInSet (column : String)
  deriving DecidableEq, Repr

/-- What a missing feature is called. -/
def Unsupported.message : Unsupported → String
  | clause name => name ++ " is not supported"
  | aggregate name => "Aggregate functions are not supported: " ++ name
  | sourceSubquery => "Subqueries in FROM are not supported"
  | insertSource => "INSERT supports only a VALUES list"
  | updateSource => "UPDATE ... FROM is not supported"
  | membershipForm => "Unsupported IN form"
  | identity text => "IS is only supported with NULL: " ++ text
  | subqueryKind kind => "Unsupported subquery: " ++ kind
  | function name => "Function calls in WHERE not yet supported: " ++ name
  | subqueryEvaluation => "Subqueries are not supported without a subquery resolver"
  | queryOf verb => "query() runs SELECT statements only, got " ++ verb ++ "; use execute()"
  | executeSelect => "execute() does not run SELECT statements; use query()"
  | columnInSet column =>
    "SET " ++ column ++ " references a column; only constant expressions are supported"

/-! ## §C — breaches of the table contract -/

/-- What is wrong with a claim about the order of rows. -/
inductive ClaimFault where
  | column
  | skippedKind (kind : String)
  | skippedNegative (shown : String)
  | skippedTooMany (skipped offset : Nat)
  | late (row : Nat)
  deriving DecidableEq, Repr

/-- What a fault of a claim says. -/
def ClaimFault.message : ClaimFault → String
  | column => "column must be a non-empty string"
  | skippedKind kind => "skipped must be an integer or None, got " ++ kind
  | skippedNegative shown => "skipped must not be negative, got " ++ shown
  | skippedTooMany skipped offset =>
    "table skipped " ++ toString skipped ++ " rows but only " ++ toString offset ++
      " were requested"
  | late row => "OrderInfo must be the first item, got one at row #" ++ toString row

/-- How a table broke its contract. -/
inductive Breach where
  | notRow (row : Nat) (kind : String)
  | repeatedId (row : Nat) (shown : String)
  | claim (fault : ClaimFault)
  deriving DecidableEq, Repr

/-- What a breach of a table says. -/
def Breach.message (table : String) : Breach → String
  | notRow row kind =>
    "Virtual table '" ++ table ++ "' violated implementation contract: row #" ++ toString row ++
      " yielded " ++ kind ++ " instead of Row. Virtual tables must yield Row instances so that " ++
      "UPDATE and DELETE can address rows by ID."
  | repeatedId row shown =>
    "Virtual table '" ++ table ++ "' violated implementation contract: duplicate row ID " ++
      shown ++ " yielded at row #" ++ toString row ++
      ". Row IDs must be unique within a result set."
  | claim fault => "Virtual table '" ++ table ++ "' yielded invalid OrderInfo: " ++ fault.message

/-! ## §D — all failures -/

/-- Why an expression has no value in its place. -/
inductive EvaluationFault where
  | arithmeticCondition (sign : String)
  | minusCondition
  | notCondition (kind : String)
  | notValue (kind : String)
  | notInteger (clause shown : String)
  | orderPosition (shown : String)
  | notStatement (kind : String)
  deriving DecidableEq, Repr

/-- What a fault of evaluation says. -/
def EvaluationFault.message : EvaluationFault → String
  | arithmeticCondition sign => "Cannot evaluate arithmetic '" ++ sign ++ "' as boolean"
  | minusCondition => "Cannot evaluate unary minus as boolean"
  | notCondition kind => "Cannot evaluate " ++ kind ++ " as boolean"
  | notValue kind => "Cannot get value from " ++ kind
  | notInteger clause shown => clause ++ " must be an integer, got " ++ shown
  | orderPosition shown => "ORDER BY position " ++ shown ++ " is not a result column"
  | notStatement kind => "Not a statement: " ++ kind

/-- A value that is refused: where it stands and what kind of fault it has. -/
structure Refusal where
  place : List String
  kind : String
  deriving DecidableEq, Repr

/-- The place of a refused value as text. -/
def Refusal.placeText (r : Refusal) : String := ".".intercalate r.place

/-- A failure. -/
inductive Error where
  | parse (fault : ParseFault)
  | unsupported (feature : Unsupported)
  | contract (table : String) (breach : Breach)
  | arity (count : Nat)
  | incapable (operation : String)
  | noCondition (verb : String)
  | evaluation (fault : EvaluationFault)
  | unknownTable (name : String)
  | number (fault : NumberError)
  | locale (fault : Collation.LocaleError)
  | encoding (fault : Text.EncodingError)
  | emptyTableName
  | noColumns
  | noCsvSource
  | csvMark (option : String)
  | noLength (kind : String)
  | unhashable (kind : String)
  | negativeIncrement
  | notFinite
  | invalid (refusals : List Refusal)
  | settingsText (sectionName : String)
  | unfinished
  | source (message : String)
  deriving DecidableEq, Repr

namespace Error

/-- **The wording of a failure.** -/
def message : Error → String
  | parse fault => fault.message
  | unsupported feature => feature.message
  | contract table breach => breach.message table
  | arity 0 => "Subquery returned no rows (expected exactly 1 for scalar context)"
  | arity count =>
    "Subquery returned " ++ toString count ++ " rows (expected exactly 1 for scalar context)"
  | incapable operation => operation ++ " not supported for this table"
  | noCondition verb =>
    verb ++ " without WHERE clause is not allowed; use an explicit condition such as " ++
      "'WHERE 1 = 1' to affect every row"
  | evaluation fault => fault.message
  | unknownTable name => "Table not found: " ++ name
  | number fault => fault.message
  | locale fault => fault.message
  | encoding fault => fault.message
  | emptyTableName => "Table name must not be empty"
  | noColumns => "insert() requires at least one column"
  | noCsvSource => "CsvTable needs exactly one of path or rows"
  | csvMark option => "\"" ++ option ++ "\" must be a 1-character string"
  | noLength kind => "object of type '" ++ kind ++ "' has no len()"
  | unhashable kind => "unhashable type: '" ++ kind ++ "'"
  | negativeIncrement => "Counters can only be incremented by non-negative amounts."
  | notFinite => "Out of range float values are not JSON compliant"
  | invalid refusals => toString refusals.length ++ " values are refused"
  | settingsText name =>
    "error parsing value for field \"" ++ name ++ "\" from source \"EnvSettingsSource\""
  | unfinished => "The source yielded more items than a query reads"
  | source text => text

/-- Whether the failure belongs to the query language and is answered to the one who asked. -/
def isQueryError : Error → Bool
  | parse _ | unsupported _ | contract .. | arity _ | incapable _ | noCondition _ | evaluation _
  | unknownTable _ => true
  | _ => false

end Error

/-- **Computations** that may fail and may change a state; a failure keeps the state reached. -/
abbrev Run (σ : Type) := ExceptT Error (StateM σ)

namespace Run
variable {σ α β : Type}

/-- The outcome and the state at the end. -/
def outcome (x : Run σ α) (s : σ) : Except Error α × σ := x.run.run s

/-- Numbers in a computation. -/
def ofNumber (x : Except NumberError α) : Run σ α :=
  match x with
  | .ok a => pure a
  | .error e => throw (.number e)

/-- Locale names in a computation. -/
def ofLocale (x : Except Collation.LocaleError α) : Run σ α :=
  match x with
  | .ok a => pure a
  | .error e => throw (.locale e)

/-- Runs a computation and gives its outcome without failing. -/
def attempt (x : Run σ α) : StateM σ (Except Error α) := x.run

/-- Runs `x`, then `finish` whatever came of it, and answers as `x` did. -/
def ensuring (x : Run σ α) (finish : StateM σ Unit) : Run σ α :=
  ExceptT.mk do
    let r ← x.run
    finish
    return r

end Run
end TableQuery

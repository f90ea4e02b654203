/-
# TableQuery.Statement.Basic — statements and the expressions in them.

A statement reads or changes one table.  Its expressions are a closed set of kinds; a subquery is a
whole SELECT in the place of an expression, so expressions and SELECT are defined together.  Trees
are values: binding parameters or resolving names builds a new tree.

## §A — operators and markers.
## §B — expressions and SELECT.
## §C — statements.
## §D — any node of a tree.
-/
import TableQuery.Value.Basic

namespace TableQuery

/-! ## §A — operators and markers -/

/-- The operators that stand between two operands. -/
inductive BinaryOp where
  | and | or
  | eq | ne | lt | le | gt | ge
  | add | sub | mul | div | mod | concat
  deriving DecidableEq, Repr

/-- How an operator is written. -/
def BinaryOp.sign : BinaryOp → String
  | .and => "AND"
  | .or => "OR"
  | .eq => "="
  | .ne => "!="
  | .lt => "<"
  | .le => "<="
  | .gt => ">"
  | .ge => ">="
  | .add => "+"
  | .sub => "-"
  | .mul => "*"
  | .div => "/"
  | .mod => "%"
  | .concat => "||"

/-- The three families of binary operators. -/
inductive BinaryOp.Family where
  | logical
  | comparison
  | arithmetic
  deriving DecidableEq, Repr

/-- Whether an operator joins conditions, compares values, or computes one. -/
def BinaryOp.family : BinaryOp → BinaryOp.Family
  | .and | .or => .logical
  | .eq | .ne | .lt | .le | .gt | .ge => .comparison
  | .add | .sub | .mul | .div | .mod | .concat => .arithmetic

/-- The operators that stand before one operand. -/
inductive UnaryOp where
  | not
  | neg
  deriving DecidableEq, Repr

/-- How an operator is written. -/
def UnaryOp.sign : UnaryOp → String
  | .not => "NOT"
  | .neg => "-"

/-- A place for a parameter: named, or positional with or without a fixed ordinal. -/
structure Marker where
  name : Option String := none
  index : Option Int := none
  deriving DecidableEq, Repr

/-- Whether the parameter is found by its place and not by a name. -/
def Marker.isPositional (m : Marker) : Bool := m.name.isNone

/-! ## §B — expressions and SELECT -/

mutual

/-- An expression.  `star` and `misplaced` are no expressions of the language: the one stands for
all columns in a select list, the other for something in a tree built by hand that has no place
there, of which only the kind is kept. -/
inductive Expr where
  | literal (value : Value)
  | column (name : String)
  | marker (marker : Marker)
  | binary (op : BinaryOp) (left right : Expr)
  | unary (op : UnaryOp) (operand : Expr)
  | member (left : Expr) (values : List Expr) (subquery : Option Select) (negated : Bool)
  | isNull (operand : Expr) (negated : Bool)
  | like (left pattern : Expr) (negated : Bool)
  | call (name : String) (args : List Expr)
  | subquery (statement : Select)
  | star
  | misplaced (kind : String)

/-- An item of a select list: what is computed, the name written after it, and the name that it has
in result rows. -/
inductive ResultColumn where
  | mk (expression : Expr) (aliasName : Option String) (label : String)

/-- An item of an ORDER BY list. -/
inductive OrderTerm where
  | mk (expression : Expr) (desc : Bool)

/-- A SELECT over one table. -/
inductive Select where
  | mk (table : String) (columns : List ResultColumn) (condition : Option Expr)
      (orderBy : List OrderTerm) (limit offset : Option Expr)

end

instance : Inhabited Expr := ⟨.star⟩

namespace ResultColumn

/-- What is computed. -/
def expression : ResultColumn → Expr
  | mk e _ _ => e

/-- The name written after the expression. -/
def aliasName : ResultColumn → Option String
  | mk _ a _ => a

/-- The name in result rows. -/
def label : ResultColumn → String
  | mk _ _ l => l

/-- Whether the item stands for all columns. -/
def isStar : ResultColumn → Bool
  | mk .star _ _ => true
  | _ => false

/-- All columns under their own names. -/
def all : ResultColumn := mk .star none "*"

end ResultColumn

namespace OrderTerm

/-- What is ordered by. -/
def expression : OrderTerm → Expr
  | mk e _ => e

/-- Whether the order is turned around. -/
def desc : OrderTerm → Bool
  | mk _ d => d

end OrderTerm

namespace Select

/-- The table that is read. -/
def table : Select → String
  | mk t _ _ _ _ _ => t

/-- The select list. -/
def columns : Select → List ResultColumn
  | mk _ c _ _ _ _ => c

/-- The WHERE condition. -/
def condition : Select → Option Expr
  | mk _ _ w _ _ _ => w

/-- The ORDER BY list. -/
def orderBy : Select → List OrderTerm
  | mk _ _ _ o _ _ => o

/-- The LIMIT expression. -/
def limit : Select → Option Expr
  | mk _ _ _ _ l _ => l

/-- The OFFSET expression. -/
def offset : Select → Option Expr
  | mk _ _ _ _ _ o => o

/-- All columns of the rows of a table that satisfy a condition. -/
def scan (table : String) (condition : Option Expr) : Select :=
  mk table [.all] condition [] none none

end Select

namespace Expr

/-- The last part of a dotted name: the column without its qualifiers. -/
def lastPart (name : String) : String :=
  String.ofList (name.toList.reverse.takeWhile (· ≠ '.')).reverse

/-- What messages call the kind of an expression. -/
def kindName : Expr → String
  | literal _ => "Literal"
  | column _ => "Identifier"
  | marker _ => "Placeholder"
  | binary .. => "BinaryOp"
  | unary .. => "UnaryOp"
  | member .. => "InOp"
  | isNull .. => "IsNullOp"
  | like .. => "LikeOp"
  | call .. => "FunctionCall"
  | subquery _ => "Subquery"
  | star => "Star"
  | misplaced kind => kind

end Expr

/-! ## §C — statements -/

/-- An INSERT of rows of expressions; without columns the values are numbered from zero. -/
structure Insert where
  table : String
  columns : List String := []
  rows : List (List Expr) := []

/-- An UPDATE of the rows that satisfy a condition. -/
structure Update where
  table : String
  assignments : List (String × Expr) := []
  condition : Option Expr := none

/-- A DELETE of the rows that satisfy a condition. -/
structure Delete where
  table : String
  condition : Option Expr := none

/-- A statement. -/
inductive Statement where
  | select (statement : Select)
  | insert (statement : Insert)
  | update (statement : Update)
  | delete (statement : Delete)

namespace Statement

/-- The table of a statement. -/
def table : Statement → String
  | select s => s.table
  | insert s => s.table
  | update s => s.table
  | delete s => s.table

/-- What messages call the kind of a statement. -/
def kindName : Statement → String
  | select _ => "SelectStatement"
  | insert _ => "InsertStatement"
  | update _ => "UpdateStatement"
  | delete _ => "DeleteStatement"

/-- The verb of a statement in lower case. -/
def verb : Statement → String
  | select _ => "select"
  | insert _ => "insert"
  | update _ => "update"
  | delete _ => "delete"

/-- The verb of a statement as it is written. -/
def keyword : Statement → String
  | select _ => "SELECT"
  | insert _ => "INSERT"
  | update _ => "UPDATE"
  | delete _ => "DELETE"

end Statement

/-! ## §D — any node of a tree -/

/-- Any node of a tree, and `bare` for a value that stands where a node should. -/
inductive Node where
  | expr (expression : Expr)
  | resultColumn (column : ResultColumn)
  | orderTerm (term : OrderTerm)
  | statement (statement : Statement)
  | bare (value : Value)

namespace Node

/-- What messages call the kind of a node. -/
def kindName : Node → String
  | expr e => e.kindName
  | resultColumn _ => "ResultColumn"
  | orderTerm _ => "OrderTerm"
  | statement s => s.kindName
  | bare v => v.kindName

/-- The node in the place of an expression. -/
def asExpr : Node → Expr
  | expr e => e
  | n => .misplaced n.kindName

end Node
end TableQuery

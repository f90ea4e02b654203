/-
# TableQuery.Statement.Shown — expressions as short text.

The text of an expression for logs and traces: binary operators in parentheses, texts in quotes with
the quotes inside doubled, a subquery only by its table.  An expression that holds an integer beyond
the digit limit has none.
-/
import TableQuery.Statement.Basic
import TableQuery.Value.Text

namespace TableQuery

/-- A text in single quotes, the quotes inside doubled. -/
def quoteLiteral (s : String) : String :=
  String.ofList ('\'' :: s.toList.flatMap (fun c => if c = '\'' then ['\'', '\''] else [c]) ++ ['\''])

/-- A literal as text. -/
def Value.literalText : Value → Except NumberError String
  | .null => .ok "NULL"
  | .text s => .ok (quoteLiteral s)
  | v => v.printed

/-- A marker as text. -/
def Marker.shown (m : Marker) : String :=
  match m.name with
  | none => "?"
  | some name => ":" ++ name

/-- A subquery as text. -/
def Select.shown (s : Select) : String := "SELECT ... FROM " ++ s.table

mutual

/-- **An expression as text.** -/
def Expr.shown : Expr → Except NumberError String
  | .literal v => v.literalText
  | .column name => .ok name
  | .marker m => .ok m.shown
  | .binary op l r => do
    let s ← l.shown
    let t ← r.shown
    return "(" ++ s ++ " " ++ op.sign ++ " " ++ t ++ ")"
  | .unary .not e => return "NOT (" ++ (← e.shown) ++ ")"
  | .unary .neg e => return "-" ++ (← e.shown)
  | .member l vs q negated => do
    let target ← match q with
      | some s => pure s.shown
      | none => ", ".intercalate <$> Expr.shownList vs
    return (← l.shown) ++ (if negated then " NOT IN (" else " IN (") ++ target ++ ")"
  | .isNull e negated => return (← e.shown) ++ (if negated then " IS NOT NULL" else " IS NULL")
  | .like l p negated => do
    let s ← l.shown
    let t ← p.shown
    return s ++ (if negated then " NOT LIKE " else " LIKE ") ++ t
  | .call name args => return name ++ "(" ++ ", ".intercalate (← Expr.shownList args) ++ ")"
  | .subquery s => .ok s.shown
  | .star => .ok "*"
  | .misplaced kind => .ok kind

/-- Each of some expressions as text. -/
def Expr.shownList : List Expr → Except NumberError (List String)
  | [] => .ok []
  | e :: es => do
    let first ← e.shown
    return first :: (← Expr.shownList es)

end

/-- An item of an ORDER BY list as text. -/
def OrderTerm.shown (t : OrderTerm) : Except NumberError String :=
  return (← t.expression.shown) ++ (if t.desc then " DESC" else " ASC")

end TableQuery

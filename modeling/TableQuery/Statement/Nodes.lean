/-
# TableQuery.Statement.Nodes — the nodes of a tree in order.

A tree is walked depth first, each node before the nodes below it, fields in the order in which they
are written.  A subquery is always met; whether its statement is entered is up to the caller.
-/
import TableQuery.Statement.Basic

namespace TableQuery

mutual

/-- The nodes of an expression; `deep` enters the statements of subqueries. -/
def Expr.nodes (deep : Bool) : Expr → List Node
  | .binary op l r => .expr (.binary op l r) :: (l.nodes deep ++ r.nodes deep)
  | .unary op e => .expr (.unary op e) :: e.nodes deep
  | .member l vs q negated =>
    .expr (.member l vs q negated) ::
      (l.nodes deep ++ (Expr.listNodes deep vs ++ Select.optionNodes deep q))
  | .isNull e negated => .expr (.isNull e negated) :: e.nodes deep
  | .like l p negated => .expr (.like l p negated) :: (l.nodes deep ++ p.nodes deep)
  | .call name args => .expr (.call name args) :: Expr.listNodes deep args
  | .subquery s => .expr (.subquery s) :: (if deep then s.nodes deep else [])
  | .misplaced _ => []
  | e => [.expr e]

/-- The nodes of expressions, from left to right. -/
def Expr.listNodes (deep : Bool) : List Expr → List Node
  | [] => []
  | e :: es => e.nodes deep ++ Expr.listNodes deep es

/-- The nodes of an expression that may be absent. -/
def Expr.optionNodes (deep : Bool) : Option Expr → List Node
  | none => []
  | some e => e.nodes deep

/-- The nodes of a subquery that may be absent. -/
def Select.optionNodes (deep : Bool) : Option Select → List Node
  | none => []
  | some s => .expr (.subquery s) :: (if deep then s.nodes deep else [])

/-- The nodes of an item of a select list. -/
def ResultColumn.nodes (deep : Bool) : ResultColumn → List Node
  | .mk e a l => .resultColumn (.mk e a l) :: e.nodes deep

/-- The nodes of a select list. -/
def ResultColumn.listNodes (deep : Bool) : List ResultColumn → List Node
  | [] => []
  | c :: cs => c.nodes deep ++ ResultColumn.listNodes deep cs

/-- The nodes of an item of an ORDER BY list. -/
def OrderTerm.nodes (deep : Bool) : OrderTerm → List Node
  | .mk e d => .orderTerm (.mk e d) :: e.nodes deep

/-- The nodes of an ORDER BY list. -/
def OrderTerm.listNodes (deep : Bool) : List OrderTerm → List Node
  | [] => []
  | t :: ts => t.nodes deep ++ OrderTerm.listNodes deep ts

/-- The nodes of a SELECT. -/
def Select.nodes (deep : Bool) : Select → List Node
  | .mk t cs w os l o =>
    .statement (.select (.mk t cs w os l o)) ::
      (ResultColumn.listNodes deep cs ++ (Expr.optionNodes deep w ++
        (OrderTerm.listNodes deep os ++ (Expr.optionNodes deep l ++ Expr.optionNodes deep o))))

end

/-- The nodes of a statement. -/
def Statement.nodes (deep : Bool) : Statement → List Node
  | .select s => s.nodes deep
  | .insert s => .statement (.insert s) :: s.rows.flatMap (Expr.listNodes deep)
  | .update s =>
    .statement (.update s) ::
      ((s.assignments.flatMap fun a => a.2.nodes deep) ++ Expr.optionNodes deep s.condition)
  | .delete s => .statement (.delete s) :: Expr.optionNodes deep s.condition

/-- **The nodes below and including a node.** -/
def Node.nodes (deep : Bool) : Node → List Node
  | .expr e => e.nodes deep
  | .resultColumn c => c.nodes deep
  | .orderTerm t => t.nodes deep
  | .statement s => s.nodes deep
  | .bare _ => []

/-- Whether the node is a marker. -/
def Node.isMarker : Node → Bool
  | .expr (.marker _) => true
  | _ => false

/-- Whether the node is a column. -/
def Node.isColumn : Node → Bool
  | .expr (.column _) => true
  | _ => false

/-- **Whether a marker stands anywhere in the tree.** -/
def Node.hasMarkers (n : Node) : Bool := (n.nodes true).any Node.isMarker

/-- Whether a column stands anywhere in the expression, the statements of subqueries aside. -/
def Expr.readsColumn (e : Expr) : Bool := (e.nodes false).any Node.isColumn

end TableQuery

/-
# TableQuery.Statement.Parameters — parameters and binding.

Parameters come as a list, for positional markers, or under keys: names for named markers, whole
numbers for positional ones.  Binding replaces every marker of a tree by the literal it stands for.
A positional marker without an ordinal takes its number from the count of such markers before it in
the tree.

## §A — lookup.
## §B — binding.
-/
import TableQuery.Statement.Basic
import TableQuery.Value.Record

namespace TableQuery

/-! ## §A — lookup -/

/-- The parameters of one execution. -/
inductive Parameters where
  | list (values : List Value)
  | keyed (entries : Record)

namespace Parameters

/-- No parameters. -/
def none : Parameters := .list []

/-- The value of a named marker: under its name, or under its name after a colon. -/
def byName (params : Parameters) (name : String) : Value :=
  match params with
  | .list _ => .null
  | .keyed entries =>
    match entries.get? (.name name) with
    | some v => v
    | Option.none => (entries.get? (.name (":" ++ name))).getD .null

/-- The value at a position. -/
def atPosition (params : Parameters) (index : Int) : Value :=
  match params with
  | .list values => if 0 ≤ index then values.getD index.toNat .null else .null
  | .keyed entries => (entries.get? (.position index)).getD .null

/-- **The value of a marker** — NULL when nothing is bound to it.  `position` is the ordinal for a
marker that carries none. -/
def lookup (params : Parameters) (m : Marker) (position : Option Int) : Value :=
  match m.name with
  | some name => params.byName name
  | Option.none =>
    match m.index <|> position with
    | some index => params.atPosition index
    | Option.none => .null

/-- Whether the marker has to be numbered by its place. -/
def needsPosition (m : Marker) : Bool := m.isPositional && m.index.isNone

/-! ## §B — binding -/

/-- The literal of a marker after `count` markers that had to be numbered, and the new count. -/
def literalFor (params : Parameters) (m : Marker) (count : Nat) : Expr × Nat :=
  if needsPosition m then (.literal (params.lookup m (some count)), count + 1)
  else (.literal (params.lookup m Option.none), count)

end Parameters

mutual

/-- Binds an expression after `count` markers that had to be numbered. -/
def Expr.bindFrom (params : Parameters) : Expr → Nat → Expr × Nat
  | .marker m, n => params.literalFor m n
  | .binary op l r, n =>
    let (l, n) := l.bindFrom params n
    let (r, n) := r.bindFrom params n
    (.binary op l r, n)
  | .unary op e, n =>
    let (e, n) := e.bindFrom params n
    (.unary op e, n)
  | .member l vs q negated, n =>
    let (l, n) := l.bindFrom params n
    let (vs, n) := Expr.bindListFrom params vs n
    let (q, n) := Select.bindOptionFrom params q n
    (.member l vs q negated, n)
  | .isNull e negated, n =>
    let (e, n) := e.bindFrom params n
    (.isNull e negated, n)
  | .like l p negated, n =>
    let (l, n) := l.bindFrom params n
    let (p, n) := p.bindFrom params n
    (.like l p negated, n)
  | .call name args, n =>
    let (args, n) := Expr.bindListFrom params args n
    (.call name args, n)
  | .subquery s, n =>
    let (s, n) := s.bindFrom params n
    (.subquery s, n)
  | e, n => (e, n)

/-- Binds expressions from left to right. -/
def Expr.bindListFrom (params : Parameters) : List Expr → Nat → List Expr × Nat
  | [], n => ([], n)
  | e :: es, n =>
    let (e, n) := e.bindFrom params n
    let (es, n) := Expr.bindListFrom params es n
    (e :: es, n)

/-- Binds an expression that may be absent. -/
def Expr.bindOptionFrom (params : Parameters) : Option Expr → Nat → Option Expr × Nat
  | none, n => (none, n)
  | some e, n =>
    let (e, n) := e.bindFrom params n
    (some e, n)

/-- Binds a subquery that may be absent. -/
def Select.bindOptionFrom (params : Parameters) : Option Select → Nat → Option Select × Nat
  | none, n => (none, n)
  | some s, n =>
    let (s, n) := s.bindFrom params n
    (some s, n)

/-- Binds an item of a select list. -/
def ResultColumn.bindFrom (params : Parameters) : ResultColumn → Nat → ResultColumn × Nat
  | .mk e a l, n =>
    let (e, n) := e.bindFrom params n
    (.mk e a l, n)

/-- Binds a select list. -/
def ResultColumn.bindListFrom (params : Parameters) :
    List ResultColumn → Nat → List ResultColumn × Nat
  | [], n => ([], n)
  | c :: cs, n =>
    let (c, n) := c.bindFrom params n
    let (cs, n) := ResultColumn.bindListFrom params cs n
    (c :: cs, n)

/-- Binds an item of an ORDER BY list. -/
def OrderTerm.bindFrom (params : Parameters) : OrderTerm → Nat → OrderTerm × Nat
  | .mk e d, n =>
    let (e, n) := e.bindFrom params n
    (.mk e d, n)

/-- Binds an ORDER BY list. -/
def OrderTerm.bindListFrom (params : Parameters) : List OrderTerm → Nat → List OrderTerm × Nat
  | [], n => ([], n)
  | t :: ts, n =>
    let (t, n) := t.bindFrom params n
    let (ts, n) := OrderTerm.bindListFrom params ts n
    (t :: ts, n)

/-- Binds a SELECT: the select list, then WHERE, ORDER BY, LIMIT and OFFSET. -/
def Select.bindFrom (params : Parameters) : Select → Nat → Select × Nat
  | .mk t cs w os l o, n =>
    let (cs, n) := ResultColumn.bindListFrom params cs n
    let (w, n) := Expr.bindOptionFrom params w n
    let (os, n) := OrderTerm.bindListFrom params os n
    let (l, n) := Expr.bindOptionFrom params l n
    let (o, n) := Expr.bindOptionFrom params o n
    (.mk t cs w os l o, n)

end

/-- Binds rows of expressions. -/
def Insert.bindRowsFrom (params : Parameters) : List (List Expr) → Nat → List (List Expr) × Nat
  | [], n => ([], n)
  | row :: rows, n =>
    let (row, n) := Expr.bindListFrom params row n
    let (rows, n) := Insert.bindRowsFrom params rows n
    (row :: rows, n)

/-- Binds assignments. -/
def Update.bindAssignmentsFrom (params : Parameters) :
    List (String × Expr) → Nat → List (String × Expr) × Nat
  | [], n => ([], n)
  | (column, e) :: rest, n =>
    let (e, n) := e.bindFrom params n
    let (rest, n) := Update.bindAssignmentsFrom params rest n
    ((column, e) :: rest, n)

/-- **Binding an expression.** -/
def Expr.bind (params : Parameters) (e : Expr) : Expr := (e.bindFrom params 0).1

/-- **Binding a SELECT.** -/
def Select.bind (params : Parameters) (s : Select) : Select := (s.bindFrom params 0).1

/-- **Binding an INSERT.** -/
def Insert.bind (params : Parameters) (s : Insert) : Insert :=
  { s with rows := (Insert.bindRowsFrom params s.rows 0).1 }

/-- **Binding an UPDATE** — the assignments, then the condition. -/
def Update.bind (params : Parameters) (s : Update) : Update :=
  let (assignments, n) := Update.bindAssignmentsFrom params s.assignments 0
  { s with assignments := assignments, condition := (Expr.bindOptionFrom params s.condition n).1 }

/-- **Binding a DELETE.** -/
def Delete.bind (params : Parameters) (s : Delete) : Delete :=
  { s with condition := (Expr.bindOptionFrom params s.condition 0).1 }

/-- **Binding a statement.** -/
def Statement.bind (params : Parameters) : Statement → Statement
  | .select s => .select (s.bind params)
  | .insert s => .insert (s.bind params)
  | .update s => .update (s.bind params)
  | .delete s => .delete (s.bind params)

/-- **Binding any node.** -/
def Node.bind (params : Parameters) : Node → Node
  | .expr e => .expr (e.bind params)
  | .resultColumn c => .resultColumn (c.bindFrom params 0).1
  | .orderTerm t => .orderTerm (t.bindFrom params 0).1
  | .statement s => .statement (s.bind params)
  | .bare v => .bare v

end TableQuery

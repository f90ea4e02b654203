/-
# TableQuery.Proofs.Evaluation.Misfits — expressions in places that are none for them.

An expression is read as a condition or as a value, and which of its parts are read in which way is
plain from the tree.  So it is plain without a row what it is refused for: an arithmetic operation or a
column in the place of a condition, something that has no value, a function (`Misfit`).
`Expr.conditionMisfits` and `Expr.valueMisfits` list what an expression is refused for.
-/
import TableQuery.Evaluation.Basic

namespace TableQuery

/-- **A misfit** — what is wrong with an expression in its place, whatever the row. -/
inductive Misfit where
  | fault (f : EvaluationFault)
  | function (name : String)

/-- The failure of an evaluation that comes to a misfit. -/
def Misfit.error : Misfit → Error
  | .fault f => .evaluation f
  | .function name => .unsupported (.function name)

/-- Whether a failure is that something has no value. -/
def Error.isValueless : Error → Bool
  | .evaluation (.notValue _) => true
  | _ => false

theorem Misfit.isQueryError_error (m : Misfit) : m.error.isQueryError = true := by
  cases m <;> rfl

mutual

/-- **The misfits of a condition.** -/
def Expr.conditionMisfits : Expr → List Misfit
  | .binary op l r =>
    match op.family with
    | .logical => l.conditionMisfits ++ r.conditionMisfits
    | .comparison => l.valueMisfits ++ r.valueMisfits
    | .arithmetic => [.fault (.arithmeticCondition op.sign)]
  | .unary op e =>
    match op with
    | .not => e.conditionMisfits
    | .neg => [.fault .minusCondition]
  | .member l vs q _ =>
    l.valueMisfits ++
      match q with
      | some _ => []
      | none => Expr.listMisfits vs
  | .isNull e _ => e.valueMisfits
  | .like l p _ => l.valueMisfits ++ p.valueMisfits
  | .literal (.bool _) => []
  | .call name _ => [.function name]
  | e => [.fault (.notCondition e.kindName)]

/-- **The misfits of a value.** -/
def Expr.valueMisfits : Expr → List Misfit
  | .binary op l r =>
    match op.family with
    | .logical => l.conditionMisfits ++ r.conditionMisfits
    | .comparison | .arithmetic => l.valueMisfits ++ r.valueMisfits
  | .unary op e =>
    match op with
    | .not => e.conditionMisfits
    | .neg => e.valueMisfits
  | .member l vs q _ =>
    l.valueMisfits ++
      match q with
      | some _ => []
      | none => Expr.listMisfits vs
  | .isNull e _ => e.valueMisfits
  | .like l p _ => l.valueMisfits ++ p.valueMisfits
  | .literal _ | .column _ | .marker _ | .subquery _ => []
  | .call name _ => [.function name]
  | .star => [.fault (.notValue "Star")]
  | .misplaced kind => [.fault (.notValue kind)]

/-- The misfits of values beside each other. -/
def Expr.listMisfits : List Expr → List Misfit
  | [] => []
  | e :: es => e.valueMisfits ++ Expr.listMisfits es

end

/-- A test is refused for the same in both readings. -/
theorem Expr.valueMisfits_of_isTest {e : Expr} (h : e.isTest = true) :
    e.valueMisfits = e.conditionMisfits := by
  cases e with
  | binary op l r =>
    cases op with
    | and | or | eq | ne | lt | le | gt | ge =>
      simp only [valueMisfits, conditionMisfits, BinaryOp.family]
    | add | sub | mul | div | mod | concat => cases h
  | unary op e =>
    cases op with
    | not => rw [valueMisfits, conditionMisfits]
    | neg => cases h
  | member l vs q negated => cases q <;> rw [valueMisfits, conditionMisfits]
  | isNull e negated => rw [valueMisfits, conditionMisfits]
  | like l p negated => rw [valueMisfits, conditionMisfits]
  | _ => cases h

end TableQuery
